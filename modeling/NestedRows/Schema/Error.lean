import NestedRows.Schema.FieldType
import NestedRows.Schema.QualifiedName
/-!
# What can be wrong with a schema
-/

namespace NestedRows

/-- Why facts about columns do not make a schema. -/
inductive SchemaError where
  /-- No scalar type belongs to the declared type. -/
  | unsupportedType (table column typeName : String)
  /-- A table has several primary key columns. -/
  | multiplePrimaryKeys (table : String) (columns : List String)
  /-- Two definitions of a column point at different columns. -/
  | differentReferences (name existing incoming : QualifiedName)
  /-- Two definitions of a column have different types. -/
  | differentTypes (name : QualifiedName) (left right : FieldType)
  /-- A name is not the name of a column. -/
  | invalidName (reason : NameError)
  /-- A foreign key points at a column that nobody declares. -/
  | unknownTarget (source target : QualifiedName)
  deriving DecidableEq

def SchemaError.message : SchemaError → String
  | unsupportedType table column typeName =>
    "Unsupported type '" ++ typeName ++ "' for column " ++ table ++ "." ++ column
  | multiplePrimaryKeys table columns =>
    "Table '" ++ table ++ "' declares more than one primary key: " ++ ", ".intercalate columns
  | differentReferences name existing incoming =>
    "Cannot merge key " ++ name.toText ++ ": references " ++ existing.toText ++ " and "
      ++ incoming.toText
  | differentTypes name left right =>
    "Cannot merge key " ++ name.toText ++ ": field type " ++ left.toText ++ " differs from "
      ++ right.toText
  | invalidName reason => "Invalid qualified name: " ++ reason.message
  | unknownTarget source target =>
    "Foreign key " ++ source.toText ++ " references unknown column " ++ target.toText

end NestedRows
