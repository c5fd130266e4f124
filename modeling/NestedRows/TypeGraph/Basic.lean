import NestedRows.Schema.Basic
/-!
# The type graph

What a query may ask for. Each table is an object type, and each column gives it fields:

* a plain column is a scalar field of its own name;
* a foreign key `c` is a scalar field `c_key` and a field `c` that leads to the one row pointed at;
* each foreign key `t/c` that points at a column gives the pointed-at table a field `t_on_c` that
  leads to the rows pointing there.

The graph is a projection of the schema: it says nothing that the schema does not. Beside the types it
keeps an edge for each field that leads to another type.
-/

namespace NestedRows

/-- How a field is answered. -/
inductive FieldKind where
  /-- By a column of the row. -/
  | scalar (column : String) (fieldType : FieldType)
  /-- By at most one row of `target`, where `remoteKey` there is `localKey` here. -/
  | one (target localKey remoteKey : String)
  /-- By all rows of `target` where `remoteKey` there is `localKey` here. -/
  | many (target localKey remoteKey : String)
  deriving DecidableEq

def FieldKind.target? : FieldKind → Option String
  | scalar _ _ => none
  | one target _ _ => some target
  | many target _ _ => some target

/-- A field of an object type. -/
structure Field where
  name : String
  kind : FieldKind
  nullable : Bool
  deriving DecidableEq

/-- The object type of a table. -/
structure ObjectType where
  name : String
  /-- The primary key column, if the table has one. -/
  primaryKey : Option String
  fields : SortedMap String Field

/-- The object types by name, and the edges between them. -/
structure TypeGraph where
  types : SortedMap String ObjectType
  /-- Each from the table of a field to the one that the field leads to. -/
  edges : List (String × String)

/-- Why a schema has no type graph. -/
inductive TypeGraphError where
  /-- Two columns give a type fields of the same name. -/
  | duplicateField (object field : String)
  /-- A reference leads to a table that the schema does not have. -/
  | unknownType (name : String)
  deriving DecidableEq

def TypeGraphError.message : TypeGraphError → String
  | duplicateField object field =>
    "Field '" ++ field ++ "' is defined twice on type '" ++ object ++ "'"
  | unknownType name => "Type not found: " ++ name

namespace Key

/-- The name of the field on a table that a foreign key points at. -/
def inverseFieldName (source : QualifiedName) : String := source.table ++ "_on_" ++ source.column

def ownFields (k : Key) : List Field :=
  let column := k.name.column
  match k.referencing with
  | none => [⟨column, .scalar column k.fieldType, k.nullable⟩]
  | some target => [
      ⟨column ++ "_key", .scalar column k.fieldType, k.nullable⟩,
      ⟨column, .one target.table column target.column, true⟩]

/-- The field for a foreign key that points at the column. -/
def inverseField (k : Key) (source : QualifiedName) : Field :=
  ⟨inverseFieldName source, .many source.table k.name.column source.column, false⟩

/-- All fields that a column gives to its table. -/
def fields (k : Key) : List Field := k.ownFields ++ k.referencedBy.toList.map k.inverseField

/-- The tables at the other ends of a column's references: the one that it points at, and those that
point at it. -/
def neighbours (k : Key) : List String :=
  k.referencing.toList.map (·.table) ++ k.referencedBy.toList.map (·.table)

end Key

namespace TypeGraph

/-- Adds a field to those of `object`, if it leads to a known table and its name is free. -/
def insertField (known : String → Bool) (object : String) (fields : SortedMap String Field)
    (f : Field) : Except TypeGraphError (SortedMap String Field) :=
  match f.kind.target?.filter fun t => !known t with
  | some target => .error (.unknownType target)
  | none =>
    if fields.contains f.name then .error (.duplicateField object f.name)
    else .ok (fields.insert f.name f)

def objectType (known : String → Bool) (t : Schema.Table) : Except TypeGraphError ObjectType := do
  let fields ← (t.columns.values.flatMap Key.fields).foldlM (insertField known t.name) ∅
  return { name := t.name, primaryKey := t.primaryKey?.map (·.name.column), fields }

def edgesFrom (t : Schema.Table) : List (String × String) :=
  (t.columns.values.flatMap Key.neighbours).map fun target => (t.name, target)

def ofSchema (s : Schema) : Except TypeGraphError TypeGraph := do
  let objects ← s.tables.values.mapM (objectType s.tables.contains)
  return {
    types := SortedMap.ofList (objects.map fun o => (o.name, o))
    edges := s.tables.values.flatMap edgesFrom }

def object? (g : TypeGraph) (name : String) : Option ObjectType := g.types.get? name

def size (g : TypeGraph) : Nat := g.types.size

end TypeGraph

end NestedRows
