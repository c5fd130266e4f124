import NestedRows.SortedMap
import NestedRows.Decimal.Notation
/-!
# JSON values

The one dynamic type of the library: the cells of a row, the data of a response and every document
that is read or written. Whole numbers are exact; other numbers are doubles. An object keeps its
fields in a list, in declaration order for records and in name order for free objects.
-/

namespace NestedRows

/-- A JSON value. -/
inductive Json where
  | null
  | bool (b : Bool)
  | int (n : Int)
  | float (x : Binary64)
  | str (s : String)
  | arr (items : List Json)
  | obj (fields : List (String × Json))

namespace Json

instance : Inhabited Json := ⟨null⟩

/-- Whether the value is `null`. -/
def isNull : Json → Bool
  | null => true
  | _ => false

def field? (name : String) : Json → Option Json
  | obj fields => fields.lookup name
  | _ => none

def str? : Json → Option String
  | str s => some s
  | _ => none

def items? : Json → Option (List Json)
  | arr items => some items
  | _ => none

/-- An object with its fields in name order. A later field takes the place of an earlier one of the
same name. -/
def sortedObj (fields : List (String × Json)) : Json := obj (SortedMap.ofList fields).toList

/-- A number as a value: `null` stands for what is no number. -/
def ofFloat (x : Binary64) : Json := if x.isFinite then float x else null

end Json

def intDigits (n : Int) : List Char :=
  if n < 0 then '-' :: Binary64.digitsOf n.natAbs else Binary64.digitsOf n.natAbs

end NestedRows
