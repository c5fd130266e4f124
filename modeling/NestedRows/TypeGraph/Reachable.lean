import NestedRows.TypeGraph.Basic
/-!
# Reachable tables

The tables that some query starting at a table can reach. They are found breadth first along the edges
of the graph: a table that is found for the first time waits for its visit, and a visit finds all tables
that an edge leads to. Whatever is found besides the start is the end of an edge, so there are at most
one more visits than edges.
-/

namespace NestedRows

namespace TypeGraph

/-- The tables that the edges from a table lead to. -/
def targets (g : TypeGraph) (name : String) : List String :=
  g.edges.filterMap fun (source, target) => if source = name then some target else none

end TypeGraph

/-- What has been found in a graph, and what of it has not been visited yet. -/
structure Search where
  found : SortedSet String
  waiting : List String

namespace Search

def start (root : String) : Search := ⟨SortedSet.empty.insert root, [root]⟩

/-- A table that has not been found before is found, and waits for its visit. -/
def find (s : Search) (name : String) : Search :=
  if s.found.contains name then s else ⟨s.found.insert name, s.waiting ++ [name]⟩

/-- The next table that is visited, and the search after the visit. -/
def visit? (g : TypeGraph) (s : Search) : Option (String × Search) :=
  match s.waiting with
  | [] => none
  | name :: rest => some (name, (g.targets name).foldl find { s with waiting := rest })

/-- The tables of the next `n` visits, or of all if there are fewer. -/
def visits (g : TypeGraph) : Nat → Search → List String
  | 0, _ => []
  | n + 1, s =>
    match s.visit? g with
    | none => []
    | some (name, s) => name :: visits g n s

end Search

/-- The tables that a query starting at `root` can reach. -/
def TypeGraph.reachableFrom (g : TypeGraph) (root : String) : SortedSet String :=
  if g.types.contains root then
    SortedSet.ofList (Search.visits g (g.edges.length + 1) (.start root))
  else ∅

end NestedRows
