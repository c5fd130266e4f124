import NestedRows.Json.Reader
/-!
# Selections

A selection names a field and what is wanted of it: nothing more, for a field that holds a scalar,
or a list of selections on the rows that it leads to.
-/

namespace NestedRows

/-- A field with what is selected below it. -/
inductive Selection where
  | node (name : String) (children : List Selection)

namespace Selection

instance : Inhabited Selection := ⟨node "" []⟩

def name : Selection → String
  | node name _ => name

def children : Selection → List Selection
  | node _ children => children

def isLeaf (s : Selection) : Bool := s.children.isEmpty

mutual

/-- The selection as a record; a leaf has no list of selections. -/
def toJson : Selection → Json
  | node name [] => .obj [("name", .str name)]
  | node name (child :: rest) =>
    .obj [("name", .str name), ("selection", .arr (child.toJson :: toJsonList rest))]

def toJsonList : List Selection → List Json
  | [] => []
  | s :: rest => s.toJson :: toJsonList rest

end

open Json.Document in
/-- The selection that a document holds. Each level opens two brackets. -/
def ofDocument? : Nat → Json.Document → Option Selection
  | 0, _ => none
  | 1, d => do
    let (_, fields) ← record? [("name", .required), ("selection", .defaulted)] 1 d
    match fields with
    | [some name, none] => return node (← name.text?) []
    | _ => none
  | depth + 2, d => do
    let (_, fields) ← record? [("name", .required), ("selection", .defaulted)] (depth + 2) d
    match fields with
    | [some name, none] => return node (← name.text?) []
    | [some name, some (.array items)] =>
      return node (← name.text?) (← items.mapM (ofDocument? depth))
    | _ => none

end Selection

end NestedRows
