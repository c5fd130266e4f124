import NestedRows.Query.Execute
/-!
# Runs that wait

A row source may take its time. A flight is a run of a compiled query between two looks at the
source: the rows of a statement are awaited, or they are there and the statements below have flights
of their own, or everything is there.

The statements below are begun in the order of their slots as soon as the rows above are known. Up
to 30 of them are joined together: all are looked at each time, in order, and the first error found
ends the run. More are joined in turn: they are looked at in the order in which something has come
for them, and an error ends the run only when everything in front of it is there. Either way every
fetch still under way is given up with the end.
-/

namespace NestedRows

abbrev Ticket := Nat

/-- A row source with state `σ` whose answers may come later. -/
structure DeferredSource (σ : Type) where
  /-- Begins to fetch the rows of a statement. -/
  start : String → List OutputColumn → σ → Ticket × σ
  /-- The fetches whose answers have come but have not been taken, in the order in which they
  came. -/
  arrived : σ → List Ticket
  /-- Takes the answer of a fetch, if it has come. -/
  take? : Ticket → σ → Option (Except QueryError (List Row) × σ)
  /-- Gives a fetch up. -/
  abandon : Ticket → σ → σ

/-- A run under way. -/
inductive Flight where
  /-- The rows of the statement are awaited. -/
  | fetching (ticket : Ticket) (statement : Statement)
  /-- The rows are there, but not everything below them. -/
  | joining (rows : List Row) (statement : Statement) (below : List Flight)
  /-- The objects made of the rows, each with its key. -/
  | landed (objects : List (Option String × Json))
  /-- The error that a flight has ended with, while flights in front of it are under way. -/
  | failed (error : QueryError)

instance : Inhabited Flight := ⟨.landed []⟩

variable {σ : Type}

/-- Changes the state of the source if there is an error. -/
def Run.onError {α : Type} (r : Run σ α) (f : σ → σ) : Run σ α :=
  match r with
  | (.ok a, state) => (.ok a, state)
  | (.error e, state) => (.error e, f state)

namespace Flight

def ofOutcome : Except QueryError Flight → Flight
  | .ok f => f
  | .error e => .failed e

def objects? : Flight → Option (List (Option String × Json))
  | .landed objects => some objects
  | _ => none

/-- The flight of a statement whose rows are there: it has landed if everything below has. -/
def ofRows (s : Statement) (rows : List Row) (below : List Flight) : Flight :=
  match below.mapM objects? with
  | some objects => .landed (s.assembleAll rows (objects.map group))
  | none => .joining rows s below

mutual

def tickets : Flight → List Ticket
  | .fetching ticket _ => [ticket]
  | .joining _ _ below => ticketsOf below
  | .landed _ | .failed _ => []

def ticketsOf : List Flight → List Ticket
  | [] => []
  | f :: rest => f.tickets ++ ticketsOf rest

end

/-- Gives up every fetch under way in the given flights. -/
def abandonAll (source : DeferredSource σ) (flights : List Flight) (state : σ) : σ :=
  (ticketsOf flights).foldl (fun state ticket => source.abandon ticket state) state

/-- Whether the answer of a fetch under way has come. -/
def canAdvance (source : DeferredSource σ) (f : Flight) (state : σ) : Bool :=
  f.tickets.any fun ticket => (source.arrived state).contains ticket

/-- The largest number of flights that are joined together. -/
def joinLimit : Nat := 30

/-- The error of the first flight that has not landed, if it has failed. -/
def errorInFront? : List Flight → Option QueryError
  | [] => none
  | .landed _ :: rest => errorInFront? rest
  | .failed e :: _ => some e
  | _ :: _ => none

end Flight

/-! ### Beginning -/

/-- Begins the flight of a statement, once the rows above are there. -/
abbrev Launcher (σ : Type) := List Row → σ → Run σ Flight

def launchTogether (source : DeferredSource σ) : List (Launcher σ) → List Row → σ →
    Run σ (List Flight)
  | [], _, state => (.ok [], state)
  | launch :: rest, rows, state =>
    (launch rows state).next fun f state =>
      ((launchTogether source rest rows state).onError (Flight.abandonAll source [f])).next
        fun more state => (.ok (f :: more), state)

/-- Begins flights that are joined in turn, behind those that have begun. -/
def launchInTurn (source : DeferredSource σ) (rows : List Row) :
    List (Launcher σ) → List Flight → σ → Run σ (List Flight)
  | [], begun, state => (.ok begun, state)
  | launch :: rest, begun, state =>
    let (f, state) := launch rows state
    let begun := begun ++ [.ofOutcome f]
    match Flight.errorInFront? begun with
    | some e => (.error e, Flight.abandonAll source begun state)
    | none => launchInTurn source rows rest begun state

def launchAll (source : DeferredSource σ) (launchers : List (Launcher σ)) (rows : List Row)
    (state : σ) : Run σ (List Flight) :=
  if launchers.length ≤ Flight.joinLimit then launchTogether source launchers rows state
  else launchInTurn source rows launchers [] state

/-- The flight of a fetch that has begun. If the answer has come, the flights below are begun. -/
def Statement.resume (source : DeferredSource σ) (ticket : Ticket) (s : Statement)
    (below : List (Launcher σ)) (state : σ) : Run σ Flight :=
  match source.take? ticket state with
  | none => (.ok (.fetching ticket s), state)
  | some (.error e, state) => (.error e, state)
  | some (.ok rows, state) =>
    (launchAll source below rows state).next fun flights state =>
      (.ok (.ofRows s rows flights), state)

/-- The flight of a statement for given keys, at its beginning. -/
def Statement.launchWith (source : DeferredSource σ) (d : Dialect) (s : Statement)
    (keys : List Sql.Literal) (below : List (Launcher σ)) (state : σ) : Run σ Flight :=
  if s.fetch.filter.isSome && keys.isEmpty then (.ok (.landed []), state)
  else
    let (ticket, state) := source.start (s.fetch.render d keys) s.fetch.columns state
    s.resume source ticket below state

mutual

/-- The flights of the statements right below a component. -/
def Component.launchers (source : DeferredSource σ) (d : Dialect) : Component → List (Launcher σ)
  | .row _ _ => []
  | .one _ _ children => launchers source d children
  | .many _ parentKey _ fetch components =>
    [fun rows state => Statement.launchWith source d ⟨fetch, components⟩
      (distinctKeys rows parentKey) (launchers source d components) state]

/-- The flights of the statements right below the components, in order. -/
def launchers (source : DeferredSource σ) (d : Dialect) : List Component → List (Launcher σ)
  | [] => []
  | c :: rest => c.launchers source d ++ launchers source d rest

end

def CompiledQuery.launch (source : DeferredSource σ) (d : Dialect) (q : CompiledQuery)
    (state : σ) : Run σ Flight :=
  q.statement.launchWith source d [] (launchers source d q.statement.components) state

/-! ### Going on -/

namespace Flight

abbrev Look (σ : Type) := σ → Run σ Flight

def lookTogether (source : DeferredSource σ) : List (Flight × Look σ) → σ → Run σ (List Flight)
  | [], state => (.ok [], state)
  | (_, look) :: rest, state =>
    ((look state).onError (abandonAll source (rest.map (·.1)))).next fun f state =>
      ((lookTogether source rest state).onError (abandonAll source [f])).next
        fun more state => (.ok (f :: more), state)

/-- Looks at those with the given numbers of flights that are joined in turn. -/
def lookInTurn (source : DeferredSource σ) (looks : List (Look σ)) :
    List Nat → List Flight → σ → Run σ (List Flight)
  | [], flights, state => (.ok flights, state)
  | i :: rest, flights, state =>
    match looks[i]? with
    | none => lookInTurn source looks rest flights state
    | some look =>
      let (f, state) := look state
      let flights := flights.set i (.ofOutcome f)
      match errorInFront? flights with
      | some e => (.error e, abandonAll source flights state)
      | none => lookInTurn source looks rest flights state

/-- The numbers of the flights for which something has come, in the order in which it came. -/
def arrivals (flights : List Flight) (arrived : List Ticket) : List Nat :=
  (arrived.filterMap fun ticket => flights.findIdx? (·.tickets.contains ticket)).eraseDups

def lookAll (source : DeferredSource σ) (below : List (Flight × Look σ)) (state : σ) :
    Run σ (List Flight) :=
  if below.length ≤ joinLimit then lookTogether source below state
  else
    let flights := below.map (·.1)
    lookInTurn source (below.map (·.2)) (arrivals flights (source.arrived state)) flights state

mutual

/-- Looks at the fetches under way, and goes on with what has come. -/
def advance (source : DeferredSource σ) (d : Dialect) : Flight → σ → Run σ Flight
  | .fetching ticket s, state => s.resume source ticket (launchers source d s.components) state
  | .joining rows s below, state =>
    (lookAll source (looks source d below) state).next fun below state =>
      (.ok (.ofRows s rows below), state)
  | .landed objects, state => (.ok (.landed objects), state)
  | .failed e, state => (.ok (.failed e), state)

def looks (source : DeferredSource σ) (d : Dialect) : List Flight → List (Flight × Look σ)
  | [] => []
  | f :: rest => (f, fun state => advance source d f state) :: looks source d rest

end

/-- The rows that a flight ends with, once everything is there. -/
def rows? (f : Flight) : Option (List Json) := f.objects?.map fun objects => objects.map (·.2)

end Flight

end NestedRows
