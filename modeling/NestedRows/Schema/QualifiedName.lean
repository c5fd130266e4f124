import NestedRows.Json.Reader
import NestedRows.Text.Split
/-!
# Names of columns

A column is named by its table and its own name, written `table/column`. Neither part is empty or
holds the separator, so the written name determines both parts (`QualifiedName.toText`,
`QualifiedName.parse`).
-/

namespace NestedRows

/-- Why two texts do not name a column, or a text does not write such a name down. -/
inductive NameError where
  /-- The table or the column is empty. -/
  | emptyPart (table column : String)
  /-- The table or the column holds the separator. -/
  | separatorInPart (part : String)
  /-- The text does not consist of two parts. -/
  | notTwoParts (text : String)
  /-- Two definitions of different columns cannot be merged. -/
  | differentKeys (left right : String)
  deriving DecidableEq

def NameError.message : NameError → String
  | emptyPart table column => "empty part in '" ++ table ++ "/" ++ column ++ "'"
  | separatorInPart part => "'" ++ part ++ "' contains '/'"
  | notTwoParts text => "expected exactly one '/' in '" ++ text ++ "'"
  | differentKeys left right => "cannot merge " ++ left ++ " with " ++ right

/-- Whether a text can be the table or the column of a name. -/
def isNamePart (s : String) : Bool := !s.toList.isEmpty && !s.toList.contains '/'

/-- The name of a column. -/
structure QualifiedName where
  table : String
  column : String
  valid : isNamePart table && isNamePart column
  deriving DecidableEq

namespace QualifiedName

/-- What is wrong with a part of the name `table/column`. -/
def partError? (table column part : String) : Option NameError :=
  if part.toList.isEmpty then some (.emptyPart table column)
  else if part.toList.contains '/' then some (.separatorInPart part)
  else none

theorem isNamePart_of_partError? {table column part : String}
    (h : partError? table column part = none) : isNamePart part = true := by
  unfold partError? at h
  split at h
  · cases h
  · split at h
    · cases h
    · simp_all [isNamePart]

/-- The name of a column; the table is looked at first. -/
def new (table column : String) : Except NameError QualifiedName :=
  match ht : partError? table column table with
  | some e => .error e
  | none =>
    match hc : partError? table column column with
    | some e => .error e
    | none => .ok ⟨table, column, by
        rw [isNamePart_of_partError? ht, isNamePart_of_partError? hc]; rfl⟩

def toText (n : QualifiedName) : String := n.table ++ "/" ++ n.column

def parse (s : String) : Except NameError QualifiedName :=
  match Text.splitAt '/' s.toList with
  | [table, column] => new (String.ofList table) (String.ofList column)
  | _ => .error (.notTwoParts s)

/-- Names are ordered by table, and within a table by column. -/
instance : Ord QualifiedName := ⟨compareLex (compareOn table) (compareOn column)⟩

instance : Std.TransOrd QualifiedName :=
  inferInstanceAs (Std.TransCmp (compareLex (compareOn table) (compareOn column)))

instance : Std.LawfulEqOrd QualifiedName where
  compare_self := Std.ReflCmp.compare_self
  eq_of_compare {a b} h := by
    have h : compareLex (compareOn table) (compareOn column) a b = .eq := h
    rw [compareLex_eq_eq] at h
    obtain ⟨ht, hc⟩ := h
    have ht : a.table = b.table := Std.LawfulEqOrd.eq_of_compare (α := String) ht
    have hc : a.column = b.column := Std.LawfulEqOrd.eq_of_compare (α := String) hc
    cases a; cases b
    simp_all

/-- A name in a document is its written form. -/
def toJson (n : QualifiedName) : Json := .str n.toText

def ofDocument? (d : Json.Document) : Option QualifiedName := do
  let s ← d.text?
  match parse s with
  | .ok n => some n
  | .error _ => none

end QualifiedName

end NestedRows
