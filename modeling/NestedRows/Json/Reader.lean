import NestedRows.Json.Document
import NestedRows.Json.Number
import NestedRows.Json.Printer
/-!
# Reading JSON documents

What a document means depends on who reads it. A reader of this module may open 127 brackets inside
one another, and looks only at what it needs: a field that a record does not know is skipped
whatever stands in it.

A record is read from an object, in which each known field stands at most once, or from an array of
its fields in declaration order.
-/

namespace NestedRows.Json

/-- How deep the brackets of a document may nest where it is read. -/
def maxDepth : Nat := 127

namespace Document

def text? : Document → Option String
  | string parts => (Json.text? parts).map String.ofList
  | _ => none

def bool? : Document → Option Bool
  | bool b => some b
  | _ => none

/-- Whether the document is `null`. -/
def isNull : Document → Bool
  | null => true
  | _ => false

mutual

/-- The value of a document whose brackets nest at most `depth` deep. Of fields with one name the
last counts. -/
def value? (depth : Nat) : Document → Option Json
  | null => some .null
  | bool b => some (.bool b)
  | number n => n.value?
  | string parts => (Json.text? parts).map fun cs => .str (String.ofList cs)
  | array items =>
    match depth with
    | 0 => none
    | depth + 1 => (values? depth items).map .arr
  | object fields =>
    match depth with
    | 0 => none
    | depth + 1 => (fieldValues? depth fields).map sortedObj

/-- The values of the items of an array. -/
def values? (depth : Nat) : List Document → Option (List Json)
  | [] => some []
  | item :: items => do
    let v ← value? depth item
    let vs ← values? depth items
    return v :: vs

/-- The values of the fields of an object. -/
def fieldValues? (depth : Nat) : List (List StringPart × Document) → Option (List (String × Json))
  | [] => some []
  | (name, item) :: fields => do
    let name ← Json.text? name
    let v ← value? depth item
    let vs ← fieldValues? depth fields
    return (String.ofList name, v) :: vs

end

/-- The items of an array, each read by `read` with what is left of the depth. -/
def list? {α : Type} (read : Nat → Document → Option α) (depth : Nat) : Document → Option (List α)
  | array items =>
    match depth with
    | 0 => none
    | depth + 1 => items.mapM (read depth)
  | _ => none

/-- What it means when a field is missing. -/
inductive Presence where
  /-- The record is wrong. -/
  | required
  /-- The field is absent from an object; an array has to hold it. -/
  | optional
  /-- The field has its default value. -/
  | defaulted
  deriving DecidableEq

/-- The fields of a record in declaration order, each with its document if it is there. -/
abbrev Fields := List (Option Document)

/-- Puts the fields of an object at their places. -/
def placeFields (names : List String) :
    List (List StringPart × Document) → Fields → Option Fields
  | [], placed => some placed
  | (name, item) :: rest, placed => do
    let name ← Json.text? name
    match names.idxOf? (String.ofList name) with
    | none => placeFields names rest placed
    | some i =>
      match placed.getD i none with
      | some _ => none
      | none => placeFields names rest (placed.set i (some item))

/-- Whether every field that is missing may be. -/
def complete (fromObject : Bool) (spec : List (String × Presence)) (placed : Fields) : Bool :=
  (spec.zip placed).all fun ((_, presence), item) =>
    item.isSome || presence = .defaulted || (fromObject && presence = .optional)

def record? (spec : List (String × Presence)) (depth : Nat) : Document → Option (Nat × Fields)
  | object fields =>
    match depth with
    | 0 => none
    | depth + 1 => do
      let placed ← placeFields (spec.map (·.1)) fields (spec.map fun _ => none)
      if complete true spec placed then some (depth, placed) else none
  | array items =>
    match depth with
    | 0 => none
    | depth + 1 =>
      if spec.length < items.length then none
      else
        let placed := items.map some ++ List.replicate (spec.length - items.length) none
        if complete false spec placed then some (depth, placed) else none
  | _ => none

end Document

/-- Reads a text with a reader that starts at the full depth. -/
def readText {α : Type} (read : Nat → Document → Option α) (s : String) : Option α := do
  read maxDepth (← Document.ofText? s)

def ofText? (s : String) : Option Json := readText Document.value? s

end NestedRows.Json
