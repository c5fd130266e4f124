import NestedRows.Json.Reader
/-!
# Tables as a database describes them

What introspection reports: tables in a namespace, their columns with the declared types, and their
foreign keys of one column each.
-/

namespace NestedRows.Catalog

/-- A column as the database describes it. -/
structure Column where
  name : String
  /-- The declared type as it is reported, such as `VARCHAR(32)`. -/
  nativeType : String
  nullable : Bool := true
  primaryKey : Bool := false
  deriving DecidableEq

/-- A foreign key of one column. -/
structure ForeignKey where
  column : String
  referencedTable : String
  referencedColumn : String
  deriving DecidableEq

/-- A table as the database describes it. -/
structure Table where
  namespaceName : String
  name : String
  columns : List Column := []
  foreignKeys : List ForeignKey := []
  deriving DecidableEq

def Column.toJson (c : Column) : Json := .obj [
  ("name", .str c.name),
  ("native_type", .str c.nativeType),
  ("nullable", .bool c.nullable),
  ("primary_key", .bool c.primaryKey)]

def ForeignKey.toJson (k : ForeignKey) : Json := .obj [
  ("column", .str k.column),
  ("referenced_table", .str k.referencedTable),
  ("referenced_column", .str k.referencedColumn)]

def Table.toJson (t : Table) : Json := .obj [
  ("schema", .str t.namespaceName),
  ("name", .str t.name),
  ("columns", .arr (t.columns.map Column.toJson)),
  ("foreign_keys", .arr (t.foreignKeys.map ForeignKey.toJson))]

open Json.Document

def Column.ofDocument? (depth : Nat) (d : Json.Document) : Option Column := do
  let (_, fields) ← record? [("name", .required), ("native_type", .required),
    ("nullable", .required), ("primary_key", .required)] depth d
  match fields with
  | [some name, some nativeType, some nullable, some primaryKey] =>
    return {
      name := ← name.text?
      nativeType := ← nativeType.text?
      nullable := ← nullable.bool?
      primaryKey := ← primaryKey.bool? }
  | _ => none

def ForeignKey.ofDocument? (depth : Nat) (d : Json.Document) : Option ForeignKey := do
  let (_, fields) ← record? [("column", .required), ("referenced_table", .required),
    ("referenced_column", .required)] depth d
  match fields with
  | [some column, some table, some target] =>
    return {
      column := ← column.text?
      referencedTable := ← table.text?
      referencedColumn := ← target.text? }
  | _ => none

/-- The table that a document holds. A table without foreign keys need not list them. -/
def Table.ofDocument? (depth : Nat) (d : Json.Document) : Option Table := do
  let (depth, fields) ← record? [("schema", .required), ("name", .required),
    ("columns", .required), ("foreign_keys", .defaulted)] depth d
  match fields with
  | [some namespaceName, some name, some columns, foreignKeys] =>
    return {
      namespaceName := ← namespaceName.text?
      name := ← name.text?
      columns := ← list? Column.ofDocument? depth columns
      foreignKeys := ← match foreignKeys with
        | none => some []
        | some keys => list? ForeignKey.ofDocument? depth keys }
  | _ => none

end NestedRows.Catalog
