import NestedRows.Query.Error
import NestedRows.Selection.Basic
import NestedRows.TypeGraph.Basic
/-!
# Plans

A plan is a selection that has been checked against a type graph: every field is known, with the
columns that it needs and their types. What can go wrong with a selection goes wrong here; from a
plan on, nothing fails. A name that starts with two underscores is a marker, not a field, and leaves
no trace in the plan.
-/

namespace NestedRows

/-- What is known about a table that a plan visits. -/
structure Plan.Visit where
  table : String
  primaryKey : Option String
  deriving DecidableEq

/-- A typed column. -/
structure Plan.Column where
  name : String
  fieldType : FieldType
  deriving DecidableEq

/-- A checked field. -/
inductive Plan.Field where
  /-- A column of the row. -/
  | scalar (field : String) (column : Plan.Column)
  /-- The fields of at most one row of another table, whose `remote` column holds this row's
  `localKey`. -/
  | one (field : String) (target : Plan.Visit) (localKey : String) (remote : Plan.Column)
    (children : List Plan.Field)
  /-- The fields of all rows of another table whose `remote` column holds this row's `parent`. -/
  | many (field : String) (target : Plan.Visit) (parent remote : Plan.Column)
    (children : List Plan.Field)

/-- A checked selection. -/
structure Plan where
  root : Plan.Visit
  fields : List Plan.Field

namespace Plan

/-- Whether a name is a marker that stands for no column. -/
def isMarker (name : String) : Bool :=
  match name.toList with
  | '_' :: '_' :: _ => true
  | _ => false

/-- The object type as a plan visits it. -/
def visitOf (o : ObjectType) : Visit := ⟨o.name, o.primaryKey⟩

/-- The scalar type of a column, read off the first field that shows it. -/
def columnOf (o : ObjectType) (column : String) : Except QueryError Column :=
  match o.fields.values.findSome? fun f =>
      match f.kind with
      | .scalar c fieldType => if c = column then some fieldType else none
      | _ => none with
  | some fieldType => .ok ⟨column, fieldType⟩
  | none => .error (.unknownField o.name column)

def requireFields (o : ObjectType) (name : String) (children : List Selection) :
    Except QueryError Unit :=
  if children.any fun s => !isMarker s.name then .ok ()
  else .error (.malformedSelection (.needsFields name o.name))

/-- The type that a field leads to. A type graph has all of them. -/
def targetOf (g : TypeGraph) (target : String) : Except QueryError ObjectType :=
  match g.object? target with
  | some o => .ok o
  | none => .error (.unknownRoot target)

mutual

/-- Checks a selected field of `o`; a marker gives nothing. -/
def ofSelection (g : TypeGraph) (o : ObjectType) : Selection → Except QueryError (List Field)
  | .node name children =>
    if isMarker name then .ok []
    else
      match o.fields.get? name with
      | none => .error (.unknownField o.name name)
      | some f =>
        match f.kind with
        | .scalar column fieldType =>
          if children.isEmpty then .ok [.scalar name ⟨column, fieldType⟩]
          else .error (.malformedSelection (.belowScalar o.name name))
        | .one target localKey remoteKey => do
          let t ← targetOf g target
          requireFields t name children
          let remote ← columnOf t remoteKey
          let fields ← ofSelections g t children
          return [.one name (visitOf t) localKey remote fields]
        | .many target localKey remoteKey => do
          let t ← targetOf g target
          requireFields t name children
          let parent ← columnOf o localKey
          let remote ← columnOf t remoteKey
          let fields ← ofSelections g t children
          return [.many name (visitOf t) parent remote fields]

/-- Checks selected fields of `o`, the first first. -/
def ofSelections (g : TypeGraph) (o : ObjectType) : List Selection → Except QueryError (List Field)
  | [] => .ok []
  | s :: rest => do
    let fields ← ofSelection g o s
    let more ← ofSelections g o rest
    return fields ++ more

end

def of (g : TypeGraph) (s : Selection) : Except QueryError Plan :=
  match g.object? s.name with
  | none => .error (.unknownRoot s.name)
  | some o => do
    requireFields o s.name s.children
    return ⟨visitOf o, ← ofSelections g o s.children⟩

mutual

/-- The tables that a field leads to, with repetition. -/
def Field.tables : Field → List String
  | .scalar _ _ => []
  | .one _ target _ _ children => target.table :: tablesOf children
  | .many _ target _ _ children => target.table :: tablesOf children

/-- The tables that the fields lead to, with repetition. -/
def tablesOf : List Field → List String
  | [] => []
  | f :: rest => f.tables ++ tablesOf rest

end

/-- The tables whose rows the answer depends on. -/
def touched (p : Plan) : SortedSet String := SortedSet.ofList (p.root.table :: tablesOf p.fields)

end Plan

end NestedRows
