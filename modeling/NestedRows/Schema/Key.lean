import NestedRows.Schema.Error
/-!
# Definitions of columns

A key definition is what is known about one column: its type, whether it may be null, whether it is
the primary key, the column it points at, and the columns that point at it. Facts about a column
arrive in any order, also before the column itself is declared, so definitions of one column are
merged (`Key.merge`): what the declared one says about null and primary key counts, and the
references of both are kept.
-/

namespace NestedRows

/-- What is known about a column. -/
structure Key where
  name : QualifiedName
  fieldType : FieldType
  nullable : Bool := true
  primaryKey : Bool := false
  /-- The column that this one points at, if it is a foreign key. -/
  referencing : Option QualifiedName := none
  /-- The columns that point at this one. -/
  referencedBy : SortedSet QualifiedName := ∅
  /-- Whether the column itself has been described, not only a reference to it. -/
  declared : Bool := true
  deriving DecidableEq

namespace Key

def isForeignKey (k : Key) : Bool := k.referencing.isSome

/-- What a foreign key says about the column that it points at. -/
def placeholder (target : QualifiedName) (source : Key) : Key where
  name := target
  fieldType := source.fieldType
  referencedBy := SortedSet.empty.insert source.name
  declared := false

/-- The reference of two definitions; both may have one if it is the same. -/
def mergeReferences (name : QualifiedName) :
    Option QualifiedName → Option QualifiedName → Except SchemaError (Option QualifiedName)
  | some existing, some incoming =>
    if existing = incoming then .ok (some existing)
    else .error (.differentReferences name existing incoming)
  | some target, none => .ok (some target)
  | none, target => .ok target

/-- The definition that says what both say about a column. -/
def merge (a b : Key) : Except SchemaError Key :=
  if a.name ≠ b.name then
    .error (.invalidName (.differentKeys a.name.toText b.name.toText))
  else if a.fieldType ≠ b.fieldType then
    .error (.differentTypes a.name a.fieldType b.fieldType)
  else do
    let referencing ← mergeReferences a.name a.referencing b.referencing
    let (nullable, primaryKey) :=
      match a.declared, b.declared with
      | true, false => (a.nullable, a.primaryKey)
      | false, true => (b.nullable, b.primaryKey)
      | _, _ => (a.nullable && b.nullable, a.primaryKey || b.primaryKey)
    return {
      name := a.name
      fieldType := a.fieldType
      nullable, primaryKey, referencing
      referencedBy := a.referencedBy.union b.referencedBy
      declared := a.declared || b.declared }

def mergeAll : Key → List Key → Except SchemaError Key
  | k, [] => .ok k
  | k, k' :: rest => do mergeAll (← k.merge k') rest

def toJson (k : Key) : Json := .obj [
  ("name", k.name.toJson),
  ("field_type", .str k.fieldType.toText),
  ("nullable", .bool k.nullable),
  ("primary_key", .bool k.primaryKey),
  ("referencing", match k.referencing with
    | some target => target.toJson
    | none => .null),
  ("referenced_by", .arr (k.referencedBy.toList.map QualifiedName.toJson))]

open Json.Document in
/-- The definition that a document holds. A document does not say that its column is declared. -/
def ofDocument? (depth : Nat) (d : Json.Document) : Option Key := do
  let (depth, fields) ← record? [("name", .required), ("field_type", .required),
    ("nullable", .required), ("primary_key", .required), ("referencing", .optional),
    ("referenced_by", .required)] depth d
  match fields with
  | [some name, some fieldType, some nullable, some primaryKey, referencing, some referencedBy] =>
    let referencing ← match referencing with
      | none | some .null => pure none
      | some target => some (← QualifiedName.ofDocument? target)
    return {
      name := ← QualifiedName.ofDocument? name
      fieldType := ← FieldType.ofDocument? depth fieldType
      nullable := ← nullable.bool?
      primaryKey := ← primaryKey.bool?
      referencing
      referencedBy :=
        SortedSet.ofList (← list? (fun _ => QualifiedName.ofDocument?) depth referencedBy)
      declared := false }
  | _ => none

end Key

end NestedRows
