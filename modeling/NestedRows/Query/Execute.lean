import NestedRows.Query.Assemble
/-!
# Running a compiled query

The statement of the root is run first. Its rows give the keys of the statements below it, which are
run in the order of their slots, each with everything below it before the next; a statement without
keys has no rows and is not run. The first error ends the run.

A row source is a function that answers one statement and changes its own state.
-/

namespace NestedRows

/-- A row source with state `σ`: it answers the text of a statement and the columns wanted. -/
abbrev RowSource (σ : Type) := String → List OutputColumn → σ → Except QueryError (List Row) × σ

/-- A result together with the state of the source. -/
abbrev Run (σ α : Type) := Except QueryError α × σ

variable {σ : Type}

/-- Goes on with the result, unless there is an error. -/
def Run.next {α β : Type} (r : Run σ α) (f : α → σ → Run σ β) : Run σ β :=
  match r with
  | (.ok a, state) => f a state
  | (.error e, state) => (.error e, state)

/-- Runs a statement for given keys, and what is below it for the rows found. -/
def Statement.runWith (source : RowSource σ) (d : Dialect) (s : Statement)
    (keys : List Sql.Literal) (below : List Row → σ → Run σ (List Groups)) (state : σ) :
    Run σ (List (Option String × Json)) :=
  if s.fetch.filter.isSome && keys.isEmpty then (.ok [], state)
  else
    (Run.next (source (s.fetch.render d keys) s.fetch.columns state)) fun rows state =>
      (below rows state).next fun subs state => (.ok (s.assembleAll rows subs), state)

mutual

/-- Runs the statements right below a component for the rows above, and gives their groups. -/
def Component.runBelow (source : RowSource σ) (d : Dialect) :
    Component → List Row → σ → Run σ (List Groups)
  | .row _ _, _, state => (.ok [], state)
  | .one _ _ children, rows, state => runBelow source d children rows state
  | .many _ parentKey _ fetch components, rows, state =>
    (Statement.runWith source d ⟨fetch, components⟩ (distinctKeys rows parentKey)
      (fun below state => runBelow source d components below state) state).next
        fun objects state => (.ok [group objects], state)

/-- Runs the statements right below the components, in order. -/
def runBelow (source : RowSource σ) (d : Dialect) :
    List Component → List Row → σ → Run σ (List Groups)
  | [], _, state => (.ok [], state)
  | c :: rest, rows, state =>
    (c.runBelow source d rows state).next fun groups state =>
      (runBelow source d rest rows state).next fun more state => (.ok (groups ++ more), state)

end

def Statement.run (source : RowSource σ) (d : Dialect) (s : Statement) (keys : List Sql.Literal)
    (state : σ) : Run σ (List (Option String × Json)) :=
  s.runWith source d keys (runBelow source d s.components) state

/-- Runs a compiled query: one object for each row of the root. -/
def CompiledQuery.run (source : RowSource σ) (d : Dialect) (q : CompiledQuery) (state : σ) :
    Run σ (List Json) :=
  (q.statement.run source d [] state).next fun rows state => (.ok (rows.map (·.2)), state)

end NestedRows
