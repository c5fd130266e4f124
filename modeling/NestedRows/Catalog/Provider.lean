import NestedRows.Catalog.Table
/-!
# Introspection

A provider knows which tables a namespace has, and describes a table when asked for it.
Introspecting a namespace asks for each of its tables; the first one that cannot be described is the
error.
-/

namespace NestedRows.Catalog

/-- A table that a namespace has. -/
structure TableInfo where
  namespaceName : String
  name : String
  deriving DecidableEq

/-- Why a table cannot be described. -/
inductive IntrospectionError where
  | tableNotFound (namespaceName name : String)
  deriving DecidableEq

def IntrospectionError.message : IntrospectionError → String
  | tableNotFound namespaceName name => "Table not found: " ++ namespaceName ++ "." ++ name

/-- A way of learning the tables of a database. -/
structure Provider where
  /-- The tables of a namespace. -/
  list : String → List TableInfo
  /-- The description of a table. -/
  get : String → String → Except IntrospectionError Table

namespace Provider

/-- The provider of fixed descriptions. Of two tables with one name the first is described. -/
def ofTables (tables : List Table) : Provider where
  list namespaceName :=
    (tables.filter (·.namespaceName = namespaceName)).map fun t => ⟨t.namespaceName, t.name⟩
  get namespaceName name :=
    match tables.find? fun t => t.namespaceName = namespaceName && t.name = name with
    | some t => .ok t
    | none => .error (.tableNotFound namespaceName name)

/-- A provider that lists more tables than it may be able to describe. -/
def withListed (p : Provider) (names : List String) : Provider where
  list namespaceName := p.list namespaceName ++ names.map fun name => ⟨namespaceName, name⟩
  get := p.get

def getAll (p : Provider) (infos : List TableInfo) : Except IntrospectionError (List Table) :=
  infos.mapM fun i => p.get i.namespaceName i.name

/-- The descriptions of all tables of a namespace. -/
def introspect (p : Provider) (namespaceName : String) : Except IntrospectionError (List Table) :=
  p.getAll (p.list namespaceName)

end Provider

end NestedRows.Catalog
