import NestedRows.Live.Feed
import NestedRows.Live.Retry
import NestedRows.Query.Flight
import NestedRows.Query.Response
/-!
# Live queries

A live query runs a compiled query and hands the whole result to its subscriber, again after every
change of a table that the result depends on. What it does is cut into small steps, and other things
may happen between any two of them: it hears of a change, discards the changes that are already
there, begins a fetch, sees the end of it, rests before another try, hands an update over.

The receiver of a live query is older than its first fetch, and changes are discarded only before a
fetch, so a change that the last fetch may have missed is always still to be heard of.

A live query that listens waits for the feed and for the end of its subscriber at once, and it may look
at either of them first (`Glance`). So a live query whose subscriber has left may still hear of a change;
it then comes to its end when it has nobody to hand the result to.
-/

namespace NestedRows

/-- What a subscriber gets. -/
inductive Update where
  /-- The whole result. -/
  | data (rows : List Json)
  /-- There was no result; the live query goes on. -/
  | failure (error : ResponseError)

/-- The update that tells the outcome of a fetch. -/
def Update.ofOutcome : Except QueryError (List Json) → Update
  | .ok rows => .data rows
  | .error e => .failure (.of e)

/-- What a live query is doing. -/
inductive LiveStage where
  /-- It waits for a change, or for the subscriber to leave. -/
  | listening
  /-- It discards the changes that are already there, since a fetch is to follow. -/
  | discarding
  /-- It is about to begin a fetch, after so many failed tries. -/
  | starting (failures : Nat)
  /-- A fetch is under way. -/
  | fetching (failures : Nat) (flight : Flight)
  /-- It rests for the given delay, until it is time for another try. -/
  | resting (failures : Nat) (delay : Nat) (due : Nat)
  /-- It waits for room to hand an update over. -/
  | delivering (update : Update)
  | stopped

/-- What a live query that listens looks at first. -/
inductive Glance where
  /-- Whether the subscriber has left. -/
  | subscriber
  | feed
  deriving DecidableEq

/-- A live query and its subscriber. -/
structure LiveQuery where
  query : CompiledQuery
  /-- The namespace of the tables of the query. -/
  namespaceName : String
  receiver : ReceiverId
  stage : LiveStage := .starting 0
  /-- What has been handed over but not taken by the subscriber yet. -/
  updates : List Update := []
  /-- Whether the subscriber is still there. -/
  hasSubscriber : Bool := true
  /-- Whether the task was asked to end. -/
  abortRequested : Bool := false

namespace LiveQuery

variable {σ : Type}

/-- The tables whose changes matter to the live query. -/
def tables (q : LiveQuery) : List TableId :=
  q.query.touched.toList.map fun table => ⟨q.namespaceName, table⟩

/-- Whether a change of a table matters to the live query. -/
def watches (q : LiveQuery) (t : TableId) : Bool := q.tables.contains t

/-- Whether the live query has come to its end. -/
def hasStopped (q : LiveQuery) : Bool :=
  match q.stage with
  | .stopped => true
  | _ => false

/-- Whether a fetch follows what has been read from the feed. Lost events may have mattered. -/
def calledBy (q : LiveQuery) : Notice → Bool
  | .event e => q.watches e.table
  | .lagged _ => true

/-- The live query after it has read from the feed. -/
def hear (config : LiveConfig) (q : LiveQuery) (n : Notice) : LiveQuery :=
  if q.calledBy n then
    { q with stage := if config.coalesceEvents then .discarding else .starting 0 }
  else q

/-- The live query after the outcome of a try: it rests before the next one, or has an update. -/
def conclude (config : LiveConfig) (now failures : Nat) (q : LiveQuery)
    (outcome : Except QueryError (List Json)) : LiveQuery :=
  { q with
    stage :=
      if config.retry.retries failures outcome then
        let delay := config.retry.delay failures
        .resting (failures + 1) delay (restEnd now delay)
      else .delivering (.ofOutcome outcome) }

/-- The live query after a look at its fetch. -/
def follow (config : LiveConfig) (now failures : Nat) (q : LiveQuery) :
    Except QueryError Flight → LiveQuery
  | .error e => q.conclude config now failures (.error e)
  | .ok flight =>
    match flight.rows? with
    | some rows => q.conclude config now failures (.ok rows)
    | none => { q with stage := .fetching failures flight }

/-- The end of a live query: its receiver is gone. -/
def stop (q : LiveQuery) (feed : Feed) : LiveQuery × Feed :=
  ({ q with stage := .stopped }, feed.unsubscribe q.receiver)

/-- Whether the live query finds its subscriber gone before it looks at the feed. -/
def seesLeft (first : Glance) (q : LiveQuery) : Bool :=
  match first with
  | .subscriber => !q.hasSubscriber
  | .feed => false

/-- The next step of a live query at the given time; none while it has to wait. What it looks at first
matters only while it listens. -/
def step? (config : LiveConfig) (source : DeferredSource σ) (d : Dialect) (first : Glance) (now : Nat)
    (q : LiveQuery) (feed : Feed) (state : σ) : Option ((LiveQuery × Feed) × σ) :=
  match q.stage with
  | .listening =>
    if q.seesLeft first then some (q.stop feed, state)
    else
      match feed.receive q.receiver with
      | .notice n feed => some ((q.hear config n, feed), state)
      | .empty => if q.hasSubscriber then none else some (q.stop feed, state)
      | .closed => some (q.stop feed, state)
  | .discarding =>
    match feed.receive q.receiver with
    | .notice _ feed => some ((q, feed), state)
    | .empty | .closed => some (({ q with stage := .starting 0 }, feed), state)
  | .starting failures =>
    let (flight, state) := q.query.launch source d state
    some ((q.follow config now failures flight, feed), state)
  | .fetching failures flight =>
    if flight.canAdvance source state then
      let (flight, state) := flight.advance source d state
      some ((q.follow config now failures flight, feed), state)
    else none
  | .resting failures _ due =>
    if due ≤ now then some (({ q with stage := .starting failures }, feed), state) else none
  | .delivering update =>
    if q.hasSubscriber then
      if q.updates.length < max config.subscriberBuffer 1 then
        some (({ q with updates := q.updates ++ [update], stage := .listening }, feed), state)
      else none
    else some (q.stop feed, state)
  | .stopped => none

/-- Ends a live query whatever it is doing. -/
def abort (source : DeferredSource σ) (q : LiveQuery) (feed : Feed) (state : σ) :
    (LiveQuery × Feed) × σ :=
  (q.stop feed,
    match q.stage with
    | .fetching _ flight => Flight.abandonAll source [flight] state
    | _ => state)

def tickets (q : LiveQuery) : List Ticket :=
  match q.stage with
  | .fetching _ flight => flight.tickets
  | _ => []

/-- The time at which a resting live query goes on. -/
def due? (q : LiveQuery) : Option Nat :=
  match q.stage with
  | .resting _ _ due => some due
  | _ => none

def take? (q : LiveQuery) : Option (Update × LiveQuery) :=
  match q.updates with
  | [] => none
  | u :: rest => some (u, { q with updates := rest })

def takeAll (q : LiveQuery) : List Update × LiveQuery := (q.updates, { q with updates := [] })

def leave (q : LiveQuery) : LiveQuery := { q with hasSubscriber := false, updates := [] }

def requestAbort (q : LiveQuery) : LiveQuery := { q with abortRequested := true }

end LiveQuery

end NestedRows
