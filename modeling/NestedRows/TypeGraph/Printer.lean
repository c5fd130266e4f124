import NestedRows.TypeGraph.Basic
/-!
# Type definitions

The graph as text: one definition for each type in name order, with its fields in name order. An
exclamation mark says that a field is never null.
-/

namespace NestedRows

def FieldKind.typeText : FieldKind → String
  | scalar _ fieldType => fieldType.scalarName
  | one target _ _ => target
  | many target _ _ => "[" ++ target ++ "!]"

def Field.definition (f : Field) : String :=
  "  " ++ f.name ++ ": " ++ f.kind.typeText ++ (if f.nullable then "" else "!") ++ "\n"

def ObjectType.definition (o : ObjectType) : String :=
  "type " ++ o.name ++ " \x7b\n" ++ String.join (o.fields.values.map Field.definition) ++ "\x7d\n"

/-- The definitions of all types, with an empty line between them. -/
def TypeGraph.definitions (g : TypeGraph) : String :=
  "\n".intercalate (g.types.values.map ObjectType.definition)

end NestedRows
