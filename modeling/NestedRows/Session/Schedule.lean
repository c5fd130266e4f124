import NestedRows.Front.Request
import NestedRows.Live.Reader
import NestedRows.Live.Registry
import NestedRows.Session.Script
/-!
# A front at work

A session is a front with its requests, live queries and attached sources, over a scripted source
and under a clock that moves only when it is told to. Each of these is a task. A task goes on until
it has to wait. A task that waits is called as soon as it can go on, and the tasks that were called
take their turns in this order. Of several tasks called at once, those with a fetch come in the
order of the answers, and others in the order in which they began to wait. A live query that listens
looks for its subscriber before it looks at the feed.

A session has settled when every task waits. `settle` gives it as many steps as it can need at most.
Letting time pass stops at every moment at which a task is due.
-/

namespace NestedRows

/-- A task of a session. -/
inductive SessionTask where
  | request (id : Nat)
  | live (id : LiveQueryId)
  | reader (id : Nat)
  deriving DecidableEq

/-- A front at work. -/
structure Session where
  dialect : Dialect
  front : Front
  live : LiveQueries
  script : Script := {}
  /-- The time in milliseconds. -/
  now : Nat := 0
  /-- The statements that were fetched, with their times. -/
  log : List (Nat × String) := []
  requests : SortedMap Nat Request := ∅
  sources : SortedMap Nat AttachedSource := ∅
  /-- The tasks that were called, in order; the first one has its turn. -/
  ready : List SessionTask := []
  /-- The tasks that wait, the one that has waited longest first. -/
  waiting : List SessionTask := []
  /-- The names under which the parts of the session are known. -/
  requestIds : SortedMap String Nat := ∅
  embeddedIds : SortedMap String Nat := ∅
  brokerIds : SortedMap String Nat := ∅
  liveIds : SortedMap String LiveQueryId := ∅
  receiverIds : SortedMap String ReceiverId := ∅
  held : SortedMap String Snapshot := ∅

namespace Session

/-- Keeps the state of the source, and notes the time of the statements fetched. -/
def record (s : Session) (script : Script) : Session :=
  { s with
    script := { script with log := [] }
    log := s.log ++ script.log.map fun sql => (s.now, sql) }

/-- The next step of a task; none while it has to wait. -/
def stepTask? (s : Session) : SessionTask → Option Session
  | .request id => do
    let r ← s.requests.get? id
    let (r, script) ← r.step? Script.source s.dialect s.front s.script
    return { s.record script with requests := s.requests.insert id r }
  | .live id => do
    let (live, script) ← s.live.step? Script.source s.dialect .subscriber s.now id s.script
    return { s.record script with live }
  | .reader id => do
    let source ← s.sources.get? id
    let (action, source) ← source.step?
    return { s with
      sources := s.sources.insert id source
      live :=
        match action with
        | .publish e => (s.live.publish e).2
        | .skip | .stop => s.live }

/-- The fetches of a task that are under way. -/
def ticketsOf (s : Session) : SessionTask → List Ticket
  | .request id => ((s.requests.get? id).map Request.tickets).getD []
  | .live id => ((s.live.tasks.get? id).map LiveQuery.tickets).getD []
  | .reader _ => []

def callAll (s : Session) : Session :=
  let answered := s.script.arrived.filterMap fun f =>
    s.waiting.find? fun t => (s.ticketsOf t).contains f.ticket
  let called := (answered ++ s.waiting.filter fun t => (s.stepTask? t).isSome).eraseDups
  { s with
    ready := s.ready ++ called
    waiting := s.waiting.filter fun t => !called.contains t }

/-- The next step of the session: the first of the tasks that were called goes on, or its turn is
over. None if all tasks wait. -/
def step? (s : Session) : Option Session :=
  match s.ready with
  | [] => none
  | t :: rest =>
    match s.stepTask? t with
    | some s => some s.callAll
    | none => some { s with ready := rest, waiting := s.waiting ++ [t] }

/-- At most so many steps of the session. -/
def steps : Nat → Session → Session
  | 0, s => s
  | n + 1, s =>
    match s.step? with
    | some s => steps n s
    | none => s

def total (ns : List Nat) : Nat := ns.foldr (· + ·) 0

/-- The number of events and messages that readers have not seen yet. -/
def unread (s : Session) : Nat :=
  total (s.sources.values.map fun
    | .embedded e => e.queue.length
    | .broker b => b.inbox.length)

/-- A number of steps that the session cannot exceed without new input. A reader takes a step for
each event or message, one to begin and one to end; an answer lets one fetch go on; a live query
has one refetch at the beginning and at most one more for each event, with a few steps for each try
of it. The end of a turn is a step too, and a turn has at least one other step unless the task was
called already. -/
def stepBound (s : Session) : Nat :=
  let unread := s.unread
  let answers := s.script.arrived.length + total s.script.permits.values
  let perRefetch := 2 * s.live.config.retry.maxRetries + 6
  let live := s.live.tasks.values.map fun q =>
    (s.live.feed.backlog q.receiver + unread + 1) * perRefetch
  let steps := unread + 2 * s.sources.size + s.requests.size + answers + total live
  2 * steps + s.ready.length

/-- Lets every task go on until it waits. -/
def settle (s : Session) : Session :=
  let s := s.callAll
  steps s.stepBound s

def spawn (s : Session) (t : SessionTask) : Session := { s with ready := s.ready ++ [t] }

/-! ### Time -/

/-- The next time at which a live query goes on that rests now. -/
def nextDue? (s : Session) : Option Nat :=
  ((s.live.tasks.values.filterMap LiveQuery.due?).filter (s.now < ·)).min?

/-- What a step of a task leaves as it is: the time. -/
theorem stepTask?_now {s s' : Session} {t : SessionTask} (h : s.stepTask? t = some s') :
    s'.now = s.now := by
  cases t <;> simp only [stepTask?, record, Option.pure_def, Option.bind_eq_bind,
    Option.bind_eq_some_iff, Option.some.injEq] at h
  · obtain ⟨_, _, _, _, rfl⟩ := h; rfl
  · obtain ⟨_, _, rfl⟩ := h; rfl
  · obtain ⟨_, _, _, _, rfl⟩ := h; rfl

/-- A step of the session takes no time. -/
theorem step?_now {s s' : Session} (h : s.step? = some s') : s'.now = s.now := by
  rw [step?] at h
  split at h
  · exact nomatch h
  · split at h
    · next next hn =>
      obtain rfl := Option.some.inj h
      show next.now = s.now
      exact stepTask?_now hn
    · obtain rfl := Option.some.inj h
      rfl

theorem steps_now (n : Nat) (s : Session) : (steps n s).now = s.now := by
  induction n generalizing s with
  | zero => rfl
  | succ n ih =>
    rw [steps]
    split
    · next h => rw [ih, step?_now h]
    · rfl

/-- Settling takes no time. -/
theorem settle_now (s : Session) : s.settle.now = s.now := by
  rw [settle]
  exact steps_now _ s.callAll

/-- Lets the time pass until the given moment. Tasks that are due go on at their own time. -/
def runUntil (s : Session) (moment : Nat) : Session :=
  match s.nextDue? with
  | some due =>
    if s.now < due ∧ due ≤ moment then runUntil { s with now := due }.settle moment
    else { s with now := max s.now moment }.settle
  | none => { s with now := max s.now moment }.settle
termination_by moment - s.now
decreasing_by
  rw [settle_now]
  show moment - due < moment - s.now
  omega

end Session

end NestedRows
