import NestedRows.Catalog.Provider
import NestedRows.Query.Statement
import NestedRows.Schema.Basic
/-!
# Snapshots

A snapshot is one generation of what is served: a schema and the type graph made of it. It is never
changed. A request that has loaded one keeps it, whatever is published later.
-/

namespace NestedRows

/-- Why no snapshot is published. -/
inductive FrontError where
  | schema (e : SchemaError)
  | graph (e : TypeGraphError)
  | introspection (e : Catalog.IntrospectionError)

def FrontError.message : FrontError → String
  | schema e => "Schema error: " ++ e.message
  | graph e => "Type graph error: " ++ e.message
  | introspection e => "Introspection error: " ++ e.message

/-- A schema with its type graph. -/
structure Snapshot where
  /-- The number of the publication; zero before it. -/
  version : Nat
  schema : Schema
  graph : TypeGraph
  /-- The namespace of the tables. -/
  namespaceName : String

namespace Snapshot

/-- The snapshot of a schema, not published yet. -/
def ofSchema (s : Schema) (namespaceName : String) : Except FrontError Snapshot :=
  match TypeGraph.ofSchema s with
  | .ok graph => .ok { version := 0, schema := s, graph, namespaceName }
  | .error e => .error (.graph e)

def fingerprint (s : Snapshot) : String := s.schema.fingerprint

def prepare (s : Snapshot) (selection : Selection) : Except QueryError CompiledQuery :=
  CompiledQuery.of s.graph selection (some s.namespaceName)

end Snapshot

end NestedRows
