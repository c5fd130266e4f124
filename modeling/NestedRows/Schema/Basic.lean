import NestedRows.Digest.Sha256
import NestedRows.Schema.Draft
/-!
# Schemas

A schema is what a finished draft says: tables by name, and their columns by name. Every column in
it is declared, every reference is known on both sides, and a table has at most one primary key
column (`Draft.build`).

The fingerprint is the digest of the schema's JSON text. Everything in the text is in name order, so
it does not depend on the order in which the draft was filled.
-/

namespace NestedRows

namespace Schema

/-- A table of a schema. -/
structure Table where
  name : String
  columns : SortedMap String Key

/-- The primary key column, if the table has one. -/
def Table.primaryKey? (t : Table) : Option Key := t.columns.values.find? (·.primaryKey)

def Table.toJson (t : Table) : Json := .obj [
  ("name", .str t.name),
  ("columns", .obj (t.columns.mapValues fun _ k => k.toJson).toList)]

end Schema

/-- The tables of a database with their columns. -/
structure Schema where
  tables : SortedMap String Schema.Table

namespace Schema

def tableNames (s : Schema) : List String := s.tables.keys

def column? (s : Schema) (name : QualifiedName) : Option Key := do
  let t ← s.tables.get? name.table
  t.columns.get? name.column

def primaryKey? (s : Schema) (table : String) : Option Key := do
  let t ← s.tables.get? table
  t.primaryKey?

def toJson (s : Schema) : Json :=
  .obj [("tables", .obj (s.tables.mapValues fun _ t => t.toJson).toList)]

def fingerprint (s : Schema) : String := Sha256.hexDigestOfText s.toJson.render

end Schema

namespace Draft

/-- What is wrong with the columns of a table: a column that nobody declared, or else a second
primary key. -/
def tableError? (table : String) (columns : SortedMap String Key) : Option SchemaError :=
  match columns.values.find? (!·.declared) with
  | some stub => some (.unknownTarget (stub.referencedBy.min?.getD stub.name) stub.name)
  | none =>
    match columns.values.filter (·.primaryKey) with
    | first :: second :: more =>
      some (.multiplePrimaryKeys table ((first :: second :: more).map (·.name.column)))
    | _ => none

/-- The schema that the draft describes. The first table with an error, in name order, decides. -/
def build (d : Draft) : Except SchemaError Schema :=
  match d.tables.toList.findSome? fun (table, columns) => tableError? table columns with
  | some e => .error e
  | none => .ok ⟨d.tables.mapValues fun name columns => ⟨name, columns⟩⟩

end Draft

def Schema.ofTables (tables : List Catalog.Table) : Except SchemaError Schema :=
  match Draft.stepAll Draft.addTable {} tables with
  | (_, some e) => .error e
  | (d, none) => d.build

end NestedRows
