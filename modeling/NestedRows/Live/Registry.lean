import NestedRows.Live.Query
/-!
# The live queries of a feed

All live queries read one feed. The registry names those that can still be cancelled: a live query
is registered before its task begins, and its entry is removed when it is cancelled or when its task
ends, whichever comes first. Subscribing has three steps, so that each can be looked at on its own, and
cancelling has two: the task is asked to end, and it ends later, when it yields.
-/

namespace NestedRows

abbrev LiveQueryId := Nat

/-- The entry of a live query. -/
structure Registration where
  /-- The outermost field of the query. -/
  root : String
  tables : List TableId
  /-- Whether the task is known, so that it can be aborted. -/
  canAbort : Bool := false

/-- The live queries of a feed. -/
structure LiveQueries where
  config : LiveConfig
  feed : Feed
  registry : SortedMap LiveQueryId Registration := ∅
  /-- The live queries that were begun, with those that have stopped. -/
  tasks : SortedMap LiveQueryId LiveQuery := ∅
  /-- The number of live queries so far. -/
  issued : LiveQueryId := 0

namespace LiveQueries

variable {σ : Type}

def ofConfig (config : LiveConfig) : LiveQueries where
  config
  feed := .ofCapacity config.channelCapacity

/-- Registers a live query. Its receiver hears of every change from now on. -/
def register (l : LiveQueries) (query : CompiledQuery) (namespaceName : String) :
    LiveQueryId × LiveQuery × LiveQueries :=
  let (receiver, feed) := l.feed.subscribe
  let q : LiveQuery := { query, namespaceName, receiver }
  (l.issued, q, { l with
    feed
    registry := l.registry.insert l.issued ⟨query.root, q.tables, false⟩
    issued := l.issued + 1 })

/-- Begins the task of a registered live query. -/
def spawn (l : LiveQueries) (id : LiveQueryId) (q : LiveQuery) : LiveQueries :=
  { l with tasks := l.tasks.insert id q }

/-- Notes how the task can be aborted, if it has not ended already. -/
def arm (l : LiveQueries) (id : LiveQueryId) : LiveQueries :=
  match l.registry.get? id with
  | none => l
  | some r => { l with registry := l.registry.insert id { r with canAbort := true } }

def subscribe (l : LiveQueries) (query : CompiledQuery) (namespaceName : String) :
    LiveQueryId × LiveQueries :=
  let (id, q, l) := l.register query namespaceName
  (id, (l.spawn id q).arm id)

/-- Keeps a live query and the feed after a step; a task that has ended leaves the registry. -/
def update (l : LiveQueries) (id : LiveQueryId) (q : LiveQuery) (feed : Feed) : LiveQueries :=
  { l with
    feed
    tasks := l.tasks.insert id q
    registry := if q.hasStopped then l.registry.erase id else l.registry }

/-- The next step of a live query; none while it has to wait. -/
def step? (source : DeferredSource σ) (d : Dialect) (first : Glance) (now : Nat) (l : LiveQueries)
    (id : LiveQueryId) (state : σ) : Option (LiveQueries × σ) := do
  let q ← l.tasks.get? id
  let ((q, feed), state) ← q.step? l.config source d first now l.feed state
  return (l.update id q feed, state)

/-- Asks a task to end. -/
def requestAbort (l : LiveQueries) (id : LiveQueryId) : LiveQueries :=
  match l.tasks.get? id with
  | none => l
  | some q => { l with tasks := l.tasks.insert id q.requestAbort }

/-- Cancels a live query, and tells whether it was still registered. Its task is asked to end, if it is
known. -/
def cancel (l : LiveQueries) (id : LiveQueryId) : Bool × LiveQueries :=
  match l.registry.get? id with
  | none => (false, l)
  | some r =>
    let l := { l with registry := l.registry.erase id }
    (true, if r.canAbort then l.requestAbort id else l)

/-- Ends a task that was asked to end and has not ended yet. A task that waits ends so without another
step, and one that is at work goes on until it has to wait; here it may have taken any steps since it
was asked. -/
def abort (source : DeferredSource σ) (l : LiveQueries) (id : LiveQueryId) (state : σ) :
    LiveQueries × σ :=
  match l.tasks.get? id with
  | none => (l, state)
  | some q =>
    if q.abortRequested && !q.hasStopped then
      let ((q, feed), state) := q.abort source l.feed state
      ({ l with feed, tasks := l.tasks.insert id q }, state)
    else (l, state)

def isActive (l : LiveQueries) (id : LiveQueryId) : Bool := l.registry.contains id

/-- The tables that a registered live query watches. -/
def tables? (l : LiveQueries) (id : LiveQueryId) : Option (List TableId) :=
  (l.registry.get? id).map (·.tables)

def size (l : LiveQueries) : Nat := l.registry.size

def isEmpty (l : LiveQueries) : Bool := l.registry.isEmpty

/-- Publishes an event, and tells how many receivers there are. -/
def publish (l : LiveQueries) (e : ChangeEvent) : Nat × LiveQueries :=
  (l.feed.receiverCount, { l with feed := l.feed.publish e })

/-- The subscriber of a live query takes the oldest update. -/
def take? (l : LiveQueries) (id : LiveQueryId) : Option (Update × LiveQueries) := do
  let q ← l.tasks.get? id
  let (u, q) ← q.take?
  return (u, { l with tasks := l.tasks.insert id q })

/-- The subscriber of a live query takes all updates. -/
def takeAll (l : LiveQueries) (id : LiveQueryId) : List Update × LiveQueries :=
  match l.tasks.get? id with
  | none => ([], l)
  | some q =>
    let (updates, q) := q.takeAll
    (updates, { l with tasks := l.tasks.insert id q })

def hasStopped (l : LiveQueries) (id : LiveQueryId) : Bool :=
  match l.tasks.get? id with
  | none => true
  | some q => q.hasStopped

def leave (l : LiveQueries) (id : LiveQueryId) : LiveQueries :=
  match l.tasks.get? id with
  | none => l
  | some q => { l with tasks := l.tasks.insert id q.leave }

end LiveQueries

end NestedRows
