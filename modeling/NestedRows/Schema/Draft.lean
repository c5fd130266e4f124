import NestedRows.Catalog.Table
import NestedRows.Schema.Key
/-!
# Collecting a schema

A draft collects what is said about columns, in any order of tables and columns. A foreign key that
is seen before its target leaves a placeholder there, which the target's own definition fills in
later.

A step may fail. The draft then stays where the step left it: the facts merged before stay, and the
column whose merge failed is gone. So each step gives the next draft and, apart from it, the error.
-/

namespace NestedRows

/-- The columns known so far, by table and name. -/
structure Draft where
  tables : SortedMap String (SortedMap String Key) := ∅

namespace Draft

/-- The draft behind a step, and the error if the step failed. -/
abbrev Outcome := Draft × Option SchemaError

/-- The columns of a table; none for a table that has not been mentioned. -/
def columns (d : Draft) (table : String) : SortedMap String Key := (d.tables.get? table).getD ∅

/-- Merges a definition into what is known about its column. The column is taken out first and put
back merged, so a failed merge drops it. -/
def mergeKey (d : Draft) (k : Key) : Outcome :=
  let columns := d.columns k.name.table
  let without := columns.erase k.name.column
  match columns.get? k.name.column with
  | none => (⟨d.tables.insert k.name.table (without.insert k.name.column k)⟩, none)
  | some existing =>
    match existing.merge k with
    | .ok merged => (⟨d.tables.insert k.name.table (without.insert k.name.column merged)⟩, none)
    | .error e => (⟨d.tables.insert k.name.table without⟩, some e)

/-- Takes the steps one after the other until one fails. -/
def stepAll {α : Type} (step : Draft → α → Outcome) : Draft → List α → Outcome
  | d, [] => (d, none)
  | d, a :: rest =>
    match step d a with
    | (d, none) => stepAll step d rest
    | (d, some e) => (d, some e)

/-- Adds a definition; a foreign key first tells its target. -/
def addKey (d : Draft) (k : Key) : Outcome :=
  match k.referencing with
  | none => d.mergeKey k
  | some target => stepAll mergeKey d [Key.placeholder target k, k]

/-- Adds a column of which only the type and the reference are known. -/
def addColumn (d : Draft) (name : QualifiedName) (fieldType : FieldType)
    (referencing : Option QualifiedName) : Outcome :=
  d.addKey { name, fieldType, referencing }

/-- Adds a definition with the target of a foreign key. -/
def addReference (k : Key) (d : Draft) (fk : Catalog.ForeignKey) : Outcome :=
  match QualifiedName.new fk.referencedTable fk.referencedColumn with
  | .error e => (d, some (.invalidName e))
  | .ok target => d.addKey { k with referencing := some target }

/-- Adds a column of a described table, once for each foreign key on it. -/
def addDescribedColumn (t : Catalog.Table) (d : Draft) (c : Catalog.Column) : Outcome :=
  match FieldType.ofNative? c.nativeType with
  | none => (d, some (.unsupportedType t.name c.name c.nativeType))
  | some fieldType =>
    match QualifiedName.new t.name c.name with
    | .error e => (d, some (.invalidName e))
    | .ok name =>
      let k : Key := { name, fieldType, nullable := c.nullable, primaryKey := c.primaryKey }
      match t.foreignKeys.filter (·.column = c.name) with
      | [] => d.addKey k
      | fks => stepAll (addReference k) d fks

def addTable (d : Draft) (t : Catalog.Table) : Outcome :=
  stepAll (addDescribedColumn t) d t.columns

end Draft

end NestedRows
