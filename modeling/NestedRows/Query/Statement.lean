import NestedRows.Query.Plan
import NestedRows.Sql.Query
/-!
# The statements of a plan

A plan becomes one statement for its root and one more for each field that leads to many rows. A
field that leads to one row is a left join in the statement of the row that it starts from. So the
number of statements depends on the selection only: a statement below another is run once for all
rows of the upper one, restricted to their keys.

Every visit of a table has an alias of its own, `t0`, `t1` and so on in the order of the selection,
and a column is selected once under the name `alias_column`.
-/

namespace NestedRows

/-- The alias of the table visited after `n` others. -/
def aliasOf (n : Nat) : String := "t" ++ toString n

/-- A selected column of a visited table. -/
structure OutputColumn where
  aliasName : String
  column : String
  fieldType : FieldType
  deriving DecidableEq

namespace OutputColumn

/-- The name of the column in the rows of the statement. -/
def name (c : OutputColumn) : String := c.aliasName ++ "_" ++ c.column

def expr (c : OutputColumn) : Sql.Expr := .columnOf c.aliasName c.column

/-- What the column is converted to, so that it can be read: a number or a text may be kept in a
form of its own. -/
def cast : FieldType → Option ScalarCast
  | .float => some .float
  | .string => some .text
  | .int => none
  | .bool => none

/-- The column in the list of a statement. -/
def item (c : OutputColumn) : Sql.SelectItem := ⟨c.expr, cast c.fieldType, some c.name⟩

end OutputColumn

/-- A left join: the rows of `table`, called `aliasName`, whose `remoteKey` is the `localKey` of the
table called `owner`. -/
structure JoinStep where
  owner : String
  localKey : String
  table : String
  aliasName : String
  remoteKey : String
  deriving DecidableEq

/-- What one statement fetches, apart from the keys that it is restricted to. -/
structure Fetch where
  namespaceName : Option String
  table : String
  aliasName : String
  columns : List OutputColumn
  joins : List JoinStep
  /-- The column whose values the keys restrict, in a statement below another. -/
  filter : Option OutputColumn
  /-- The primary key that orders the rows. -/
  orderBy : Option String
  /-- The number of statements right below this one. -/
  subFetches : Nat

/-- How a field of the answer is made from a row of a statement. -/
inductive Component where
  /-- Copied from a column. -/
  | row (field column : String)
  /-- An object made of the same row, or null where the `presence` column is null. -/
  | one (field presence : String) (children : List Component)
  /-- The rows of the statement in place `slot` below this one that match `parentKey`. -/
  | many (field parentKey : String) (slot : Nat) (fetch : Fetch) (components : List Component)

instance : Inhabited Component := ⟨.row "" ""⟩

/-- A statement with what is made of its rows. -/
structure Statement where
  fetch : Fetch
  components : List Component

namespace Fetch

/-- A table in the namespace of the statement. -/
def tableRef (f : Fetch) (table aliasName : String) : Sql.TableRef :=
  ⟨f.namespaceName, table, some aliasName⟩

def join (f : Fetch) (j : JoinStep) : Sql.Join where
  table := f.tableRef j.table j.aliasName
  on := .eq (.columnOf j.owner j.localKey) (.columnOf j.aliasName j.remoteKey)

def query (f : Fetch) : Sql.Query where
  select := f.columns.map OutputColumn.item
  source := some (f.tableRef f.table f.aliasName)
  joins := f.joins.map f.join
  orderBy := f.orderBy.toList.map fun pk => .columnOf f.aliasName pk

/-- The statement restricted to the given keys, if it has a filter column. -/
def restricted (f : Fetch) (keys : List Sql.Literal) : Sql.Query :=
  match f.filter with
  | none => f.query
  | some c => f.query.filter (.isIn c.expr (keys.map .literal))

def render (f : Fetch) (d : Dialect) (keys : List Sql.Literal) : String :=
  (f.restricted keys).render d

end Fetch

/-- The columns, joins and lower statements of a statement so far, and the number of aliases in use
in the whole query. -/
structure Emission where
  issued : Nat
  columns : List OutputColumn := []
  joins : List JoinStep := []
  subFetches : Nat := 0

/-- Selects a column, if it is not selected already. -/
def Emission.select (e : Emission) (c : OutputColumn) : Emission :=
  if e.columns.any fun d => d.name = c.name then e else { e with columns := e.columns ++ [c] }

def Emission.join (e : Emission) (owner localKey table remoteKey : String) : Emission :=
  { e with
    issued := e.issued + 1
    joins := e.joins ++ [⟨owner, localKey, table, aliasOf e.issued, remoteKey⟩] }

def Emission.fetch (e : Emission) (namespaceName : Option String) (visit : Plan.Visit)
    (aliasName : String) (filter : Option OutputColumn) : Fetch where
  namespaceName
  table := visit.table
  aliasName
  columns := e.columns
  joins := e.joins
  filter
  orderBy := visit.primaryKey
  subFetches := e.subFetches

namespace Plan

mutual

/-- Emits a field of the table called `aliasName`. -/
def emitField (namespaceName : Option String) (aliasName : String) :
    Field → Emission → Component × Emission
  | .scalar field column, e =>
    let c : OutputColumn := ⟨aliasName, column.name, column.fieldType⟩
    (.row field c.name, e.select c)
  | .one field target localKey remote children, e =>
    let presence : OutputColumn := ⟨aliasOf e.issued, remote.name, remote.fieldType⟩
    let e := (e.join aliasName localKey target.table remote.name).select presence
    let (components, e) := emitFields namespaceName presence.aliasName children e
    (.one field presence.name components, e)
  | .many field target parent remote children, e =>
    let key : OutputColumn := ⟨aliasName, parent.name, parent.fieldType⟩
    let e := e.select key
    let filter : OutputColumn := ⟨aliasOf e.issued, remote.name, remote.fieldType⟩
    let (components, below) := emitFields namespaceName filter.aliasName children
      { issued := e.issued + 1, columns := [filter] }
    let fetch := below.fetch namespaceName target filter.aliasName (some filter)
    (.many field key.name e.subFetches fetch components,
      { e with issued := below.issued, subFetches := e.subFetches + 1 })

/-- Emits the fields of the table called `aliasName`, the first first. -/
def emitFields (namespaceName : Option String) (aliasName : String) :
    List Field → Emission → List Component × Emission
  | [], e => ([], e)
  | f :: rest, e =>
    let (component, e) := emitField namespaceName aliasName f e
    let (components, e) := emitFields namespaceName aliasName rest e
    (component :: components, e)

end

/-- The statement for the root of a plan. -/
def statement (namespaceName : Option String) (p : Plan) : Statement :=
  let (components, e) := emitFields namespaceName (aliasOf 0) p.fields { issued := 1 }
  ⟨e.fetch namespaceName p.root (aliasOf 0) none, components⟩

end Plan

/-- A selection ready to be run. -/
structure CompiledQuery where
  /-- The name of the outermost field. -/
  root : String
  statement : Statement
  /-- The tables whose rows the answer depends on. -/
  touched : SortedSet String

def CompiledQuery.of (g : TypeGraph) (s : Selection) (namespaceName : Option String) :
    Except QueryError CompiledQuery := do
  let p ← Plan.of g s
  return ⟨s.name, p.statement namespaceName, p.touched⟩

/-! ### The statements below -/

/-- A statement below another, with the field that it answers, its place among its siblings, and the
column whose values it is restricted to. -/
structure SubFetch where
  field : String
  slot : Nat
  parentKey : String
  statement : Statement

mutual

/-- The statements right below a component, in the order of their slots. A statement that starts
from a row joined in is among them. -/
def Component.subFetches : Component → List SubFetch
  | .row _ _ => []
  | .one _ _ children => subFetchesOf children
  | .many field parentKey slot fetch components =>
    [⟨field, slot, parentKey, ⟨fetch, components⟩⟩]

def subFetchesOf : List Component → List SubFetch
  | [] => []
  | c :: rest => c.subFetches ++ subFetchesOf rest

end

mutual

/-- The texts of the statements of a component, each with `NULL` for the keys that are not known. -/
def Component.explain (d : Dialect) : Component → List String
  | .row _ _ => []
  | .one _ _ children => explainAll d children
  | .many _ _ _ fetch components => fetch.render d [.null] :: explainAll d components

/-- The texts of the statements of the given components. -/
def explainAll (d : Dialect) : List Component → List String
  | [] => []
  | c :: rest => c.explain d ++ explainAll d rest

end

/-- The texts of all statements, an upper one before those below it. -/
def CompiledQuery.explain (q : CompiledQuery) (d : Dialect) : List String :=
  q.statement.fetch.render d [] :: explainAll d q.statement.components

end NestedRows
