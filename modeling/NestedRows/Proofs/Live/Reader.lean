import NestedRows.Live.Reader
import NestedRows.Proofs.Live.Envelope
/-!
# What a reader asks of its source

A source is supplied with events or with deliveries, and at last with its end. Its reader asks for these one
after the other, and a broker source for a subscription before them, up to the first with which it stops.
So what it is still going to ask is known at any time (`AttachedSource.todo`), each step takes the first of
it (`AttachedSource.reads_of_step?`), and a supply adds to the end of it. Nothing else about sources enters
into what comes after: whatever the order of steps and supplies, what was asked and what is still to be
asked are together what the supplies call for (`AttachedSource.Accounts`).
-/

namespace NestedRows

theorem BrokerMessage.decode_ne_channelClosed (m : BrokerMessage) : m.decode ≠ .error .channelClosed := by
  rcases Topic.parse_cases m.topic with ⟨t, ht⟩ | ht
  · rw [decode_of_parse_ok ht]
    split
    · simp
    · split
      · simp
      · split <;> simp
  · rw [decode_of_parse_error ht]
    simp

def ReaderAction.event? : ReaderAction → Option ChangeEvent
  | publish e => some e
  | skip | stop => none

/-- A reader publishes the event that was encoded in a message if there is such a topic, and skips the message
if not. -/
theorem Delivery.action_encode (e : ChangeEvent) :
    (Delivery.message (.encode e)).action = if e.table.IsTopicOf e.source then .publish e else .skip := by
  rw [action, BrokerMessage.decode_encode]
  split <;> rfl

theorem BrokerSource.step?_of_inbox {s : BrokerSource} {d : Delivery} {rest : List Delivery}
    (hread : s.isRead = true) (hsubscribed : s.subscriptions ≠ []) (hinbox : s.inbox = d :: rest)
    (hgoesOn : d.action ≠ .stop) : s.step? = some (d.action, { s with inbox := rest }) := by
  rw [step?, if_pos hread, if_neg (mt List.isEmpty_iff.mp hsubscribed), hinbox]
  cases haction : d.action with
  | stop => exact absurd haction hgoesOn
  | publish e | skip => simp only [haction]

/-! ### Supplies -/

inductive Supply where
  | written (e : ChangeEvent)
  | delivered (d : Delivery)
  | ended

namespace Supply

/-- Whether it is the last that the reader asks for: the end, or a closed channel. -/
def stops : Supply → Bool
  | delivered (.failure .channelClosed) | ended => true
  | written _ | delivered _ => false

/-- The event in it: one that was written, or that of a message that can be read and has one. -/
def event? : Supply → Option ChangeEvent
  | written e => some e
  | delivered (.message m) =>
    match m.decode with
    | .ok e? => e?
    | .error _ => none
  | delivered (.failure _) | ended => none

def action : Supply → ReaderAction
  | written e => .publish e
  | delivered d => d.action
  | ended => .stop

theorem action_eq_stop_iff (x : Supply) : x.action = .stop ↔ x.stops = true := by
  cases x with
  | written e => simp [action, stops]
  | ended => simp [action, stops]
  | delivered d =>
    cases d with
    | message m =>
      have hne := m.decode_ne_channelClosed
      rw [action, Delivery.action]
      cases hdecode : m.decode with
      | ok e? => cases e? <;> simp [ReaderAction.ofAnswer, stops]
      | error e =>
        rw [hdecode] at hne
        cases e <;> simp_all [ReaderAction.ofAnswer, stops]
    | failure e => cases e <;> simp [action, Delivery.action, ReaderAction.ofAnswer, stops]

theorem event?_action (x : Supply) : x.action.event? = x.event? := by
  cases x with
  | written e => rfl
  | ended => rfl
  | delivered d =>
    cases d with
    | message m =>
      rw [action, Delivery.action, event?]
      cases m.decode with
      | ok e? => cases e? <;> rfl
      | error e => cases e <;> rfl
    | failure e => cases e <;> rfl

end Supply

/-- The supplies up to the first with which a reader stops. -/
def untilStop : List Supply → List Supply
  | [] => []
  | x :: rest => if x.stops then [x] else x :: untilStop rest

def eventsOf (supplies : List Supply) : List ChangeEvent := (untilStop supplies).filterMap Supply.event?

theorem untilStop_append (l more : List Supply) :
    untilStop (l ++ more) = if l.any Supply.stops then untilStop l else untilStop l ++ untilStop more := by
  induction l with
  | nil => rfl
  | cons x rest ih =>
    rw [List.cons_append, untilStop, untilStop, List.any_cons]
    cases x.stops with
    | true => rfl
    | false =>
      rw [if_neg Bool.false_ne_true, if_neg Bool.false_ne_true, ih, Bool.false_or]
      split <;> rfl

theorem any_untilStop (l : List Supply) : (untilStop l).any Supply.stops = l.any Supply.stops := by
  induction l with
  | nil => rfl
  | cons x rest ih =>
    rw [untilStop]
    cases hstops : x.stops <;> simp [hstops, ih]

/-! ### Calls -/

inductive ReaderCall where
  | subscribe (topics : List String)
  /-- The next supply is asked for, and it is this one. -/
  | next (x : Supply)

namespace ReaderCall

def stops : ReaderCall → Bool
  | subscribe _ => false
  | next x => x.stops

def action : ReaderCall → ReaderAction
  | subscribe _ => .skip
  | next x => x.action

def topics? : ReaderCall → Option (List String)
  | subscribe topics => some topics
  | next _ => none

end ReaderCall

theorem any_stops_map_next (l : List Supply) :
    (l.map ReaderCall.next).any ReaderCall.stops = l.any Supply.stops := by
  rw [List.any_map]
  rfl

namespace AttachedSource

def call : AttachedSource → ReaderCall
  | embedded s =>
    match s.queue with
    | e :: _ => .next (.written e)
    | [] => .next .ended
  | broker s =>
    if s.subscriptions.isEmpty then .subscribe s.topics
    else
      match s.inbox with
      | d :: _ => .next (.delivered d)
      | [] => .next .ended

def isRead : AttachedSource → Bool
  | embedded s => s.isRead
  | broker s => s.isRead

def subscriptions : AttachedSource → List (List String)
  | embedded _ => []
  | broker s => s.subscriptions

/-- The supplies that were not asked for yet. -/
def pending : AttachedSource → List Supply
  | embedded s => s.queue.map .written ++ if s.hasWriter then [] else [.ended]
  | broker s => s.inbox.map .delivered ++ if s.isOpen then [] else [.ended]

/-- What the reader asks before it asks for supplies. -/
def opening : AttachedSource → List ReaderCall
  | embedded _ => []
  | broker s => if s.subscriptions.isEmpty then [.subscribe s.topics] else []

/-- What the supplies of a source call for. -/
def plan (s : AttachedSource) (supplies : List Supply) : List ReaderCall :=
  s.opening ++ (untilStop supplies).map .next

/-- What the reader is still going to ask. -/
def todo (s : AttachedSource) : List ReaderCall := if s.isRead then s.plan s.pending else []

theorem any_stops_plan (s : AttachedSource) (supplies : List Supply) :
    (s.plan supplies).any ReaderCall.stops = supplies.any Supply.stops := by
  have hopening : s.opening.any ReaderCall.stops = false := by
    cases s with
    | embedded s => rfl
    | broker s =>
      rw [opening]
      split <;> rfl
  rw [plan, List.any_append, hopening, Bool.false_or, any_stops_map_next, any_untilStop]

/-! ### Steps -/

/-- The step of a reader that does what the call asks for, and goes on to the next one. -/
structure Reads (s : AttachedSource) (action : ReaderAction) (s' : AttachedSource) : Prop where
  isRead : s.isRead = true
  action_eq : action = s.call.action
  todo_eq : s.todo = s.call :: s'.todo
  stops : s'.isRead = !s.call.stops
  subscriptions_eq : s'.subscriptions = s.subscriptions ++ s.call.topics?.toList

theorem todo_of_isRead {s : AttachedSource} (h : s.isRead = true) : s.todo = s.plan s.pending := if_pos h

theorem todo_of_not_isRead {s : AttachedSource} (h : s.isRead = false) : s.todo = [] := by
  rw [todo, h, if_neg Bool.false_ne_true]

theorem reads_of_pending {s s' : AttachedSource} (x : Supply) (rest : List Supply)
    (hread : s.isRead = true) (hopening : s.opening = []) (hpending : s.pending = x :: rest)
    (hcall : s.call = .next x) (hstops : s'.isRead = !x.stops)
    (hrest : x.stops = false → s'.opening = [] ∧ s'.pending = rest)
    (hsubscriptions : s'.subscriptions = s.subscriptions) : s.Reads x.action s' where
  isRead := hread
  action_eq := by
    rw [hcall]
    rfl
  todo_eq := by
    rw [todo_of_isRead hread, plan, hopening, hpending, hcall, untilStop, List.nil_append]
    cases hx : x.stops with
    | true =>
      rw [todo_of_not_isRead (by rw [hstops, hx]; rfl)]
      rfl
    | false =>
      obtain ⟨hopening', hpending'⟩ := hrest hx
      rw [todo_of_isRead (by rw [hstops, hx]; rfl), plan, hopening', hpending']
      rfl
  stops := by
    rw [hcall, hstops]
    rfl
  subscriptions_eq := by
    rw [hcall, hsubscriptions]
    exact (List.append_nil _).symm

theorem reads_embedded {s s' : EmbeddedSource} {action : ReaderAction} (h : s.step? = some (action, s')) :
    (embedded s).Reads action (embedded s') := by
  rw [EmbeddedSource.step?] at h
  split at h
  case isFalse => cases h
  case isTrue hread =>
    cases hqueue : s.queue with
    | cons e rest =>
      rw [hqueue] at h
      cases h
      refine reads_of_pending (.written e) _ hread rfl ?_ ?_ hread (fun _ => ⟨rfl, rfl⟩) rfl
      · rw [pending, hqueue]
        rfl
      · rw [call, hqueue]
    | nil =>
      rw [hqueue] at h
      cases hwriter : s.hasWriter with
      | true => simp [hwriter] at h
      | false =>
        simp only [hwriter, Bool.false_eq_true, if_false, Option.some.injEq, Prod.mk.injEq] at h
        obtain ⟨rfl, rfl⟩ := h
        refine reads_of_pending .ended [] hread rfl ?_ ?_ rfl nofun rfl
        · rw [pending, hqueue, hwriter]
          rfl
        · rw [call, hqueue]

theorem reads_subscribe {s : BrokerSource} (hread : s.isRead = true) (hnone : s.subscriptions.isEmpty = true) :
    (broker s).Reads .skip (broker { s with subscriptions := [s.topics] }) := by
  have hcall : (broker s).call = .subscribe s.topics := by rw [call, if_pos hnone]
  refine ⟨hread, by rw [hcall]; rfl, ?_, by rw [hcall]; exact hread, ?_⟩
  · rw [todo_of_isRead (s := broker s) hread, hcall, plan, opening, if_pos hnone]
    have htodo := todo_of_isRead (s := broker { s with subscriptions := [s.topics] }) hread
    exact congrArg (_ :: ·) htodo.symm
  · rw [hcall, subscriptions, subscriptions, List.isEmpty_iff.mp hnone]
    rfl

theorem reads_delivered {s s' : BrokerSource} {d : Delivery} {rest : List Delivery} (hread : s.isRead = true)
    (hnone : ¬s.subscriptions.isEmpty = true) (hinbox : s.inbox = d :: rest)
    (hstops : s'.isRead = !(Supply.delivered d).stops)
    (hrest : (Supply.delivered d).stops = false → s'.isOpen = s.isOpen ∧ s'.inbox = rest)
    (hsubscriptions : s'.subscriptions = s.subscriptions) : (broker s).Reads d.action (broker s') := by
  have hopening : (broker s).opening = [] := by rw [opening, if_neg hnone]
  refine reads_of_pending (.delivered d) (rest.map .delivered ++ if s.isOpen then [] else [.ended]) hread hopening
    ?_ ?_ hstops (fun hgoesOn => ?_) hsubscriptions
  · rw [pending, hinbox]
    rfl
  · rw [call, if_neg hnone, hinbox]
  · obtain ⟨hopen, hinbox'⟩ := hrest hgoesOn
    rw [opening, hsubscriptions, if_neg hnone, pending, hopen, hinbox']
    exact ⟨rfl, rfl⟩

theorem reads_broker {s s' : BrokerSource} {action : ReaderAction} (h : s.step? = some (action, s')) :
    (broker s).Reads action (broker s') := by
  rw [BrokerSource.step?] at h
  split at h
  case isFalse => cases h
  case isTrue hread =>
    by_cases hnone : s.subscriptions.isEmpty = true
    case pos =>
      rw [if_pos hnone] at h
      cases h
      exact reads_subscribe hread hnone
    case neg =>
      rw [if_neg hnone] at h
      cases hinbox : s.inbox with
      | nil =>
        rw [hinbox] at h
        cases hopen : s.isOpen with
        | true => simp [hopen] at h
        | false =>
          simp only [hopen, Bool.false_eq_true, if_false, Option.some.injEq, Prod.mk.injEq] at h
          obtain ⟨rfl, rfl⟩ := h
          refine reads_of_pending .ended [] hread (by rw [opening, if_neg hnone]) ?_ ?_ rfl nofun rfl
          · rw [pending, hinbox, hopen]
            rfl
          · rw [call, if_neg hnone, hinbox]
      | cons d rest =>
        rw [hinbox] at h
        have hiff := (Supply.delivered d).action_eq_stop_iff
        rw [Supply.action] at hiff
        by_cases hstop : d.action = .stop
        case pos =>
          have hstops := hiff.mp hstop
          simp only [hstop, Option.some.injEq, Prod.mk.injEq] at h
          obtain ⟨rfl, rfl⟩ := h
          rw [← hstop]
          refine reads_delivered hread hnone hinbox (by rw [hstops]; rfl) (fun hgoesOn => ?_) rfl
          rw [hstops] at hgoesOn
          cases hgoesOn
        case neg =>
          have hgoesOn := Bool.eq_false_iff.mpr (mt hiff.mpr hstop)
          simp only [Option.some.injEq, Prod.mk.injEq] at h
          obtain ⟨rfl, rfl⟩ := h
          exact reads_delivered hread hnone hinbox (by rw [hgoesOn]; exact hread) (fun _ => ⟨rfl, rfl⟩) rfl

/-- Each step of a reader takes the first of what is still to be asked. -/
theorem reads_of_step? {s s' : AttachedSource} {action : ReaderAction} (h : s.step? = some (action, s')) :
    s.Reads action s' := by
  cases s with
  | embedded s =>
    obtain ⟨⟨action, s'⟩, hstep, heq⟩ := Option.map_eq_some_iff.mp h
    cases heq
    exact reads_embedded hstep
  | broker s =>
    obtain ⟨⟨action, s'⟩, hstep, heq⟩ := Option.map_eq_some_iff.mp h
    cases heq
    exact reads_broker hstep

theorem todo_of_step?_eq_none {s : AttachedSource} (h : s.step? = none) : s.todo = [] := by
  cases hread : s.isRead with
  | false => exact todo_of_not_isRead hread
  | true =>
    rw [todo_of_isRead hread]
    cases s with
    | embedded s =>
      rw [isRead] at hread
      rw [step?, Option.map_eq_none_iff, EmbeddedSource.step?, if_pos hread] at h
      cases hqueue : s.queue <;> cases hwriter : s.hasWriter <;> simp [hqueue, hwriter] at h
      simp [plan, opening, pending, hqueue, hwriter, untilStop]
    | broker s =>
      rw [isRead] at hread
      rw [step?, Option.map_eq_none_iff, BrokerSource.step?, if_pos hread] at h
      cases hnone : s.subscriptions.isEmpty with
      | true => simp [hnone] at h
      | false =>
        cases hinbox : s.inbox with
        | nil =>
          cases hopen : s.isOpen <;> simp [hnone, hinbox, hopen] at h
          simp [plan, opening, pending, hnone, hinbox, hopen, untilStop]
        | cons d rest =>
          simp only [hnone, hinbox, Bool.false_eq_true, if_false] at h
          split at h <;> cases h

/-- What the reader asks, and does upon it, until it waits or ends if nothing more is supplied. -/
def reading (s : AttachedSource) : List (ReaderCall × ReaderAction) :=
  match hstep : s.step? with
  | none => []
  | some (action, s') =>
    have : s'.todo.length < s.todo.length := by
      rw [(reads_of_step? hstep).todo_eq]
      exact Nat.lt_succ_self _
    (s.call, action) :: s'.reading
termination_by s.todo.length

theorem reading_eq (s : AttachedSource) : s.reading = s.todo.map fun call => (call, call.action) := by
  fun_induction reading s with
  | case1 s hstep =>
    rw [todo_of_step?_eq_none hstep]
    rfl
  | case2 s action s' hstep _ ih =>
    have hreads := reads_of_step? hstep
    rw [hreads.todo_eq, List.map_cons, ← ih, ← hreads.action_eq]

/-! ### Supplies that arrive -/

inductive Takes : AttachedSource → Supply → AttachedSource → Prop
  | written {s s' : EmbeddedSource} {t : TableId} {kind : ChangeKind} (hwriter : s.hasWriter = true)
      (hemit : s.emit t kind = .ok s') : Takes (embedded s) (.written ⟨s.name, t, kind⟩) (embedded s')
  | left {s : EmbeddedSource} : Takes (embedded s) .ended (embedded { s with hasWriter := false })
  | delivered {s : BrokerSource} {d : Delivery} : Takes (broker s) (.delivered d) (broker (s.queue d))
  | shut {s : BrokerSource} : Takes (broker s) .ended (broker { s with isOpen := false })

variable {s s' : AttachedSource} {x : Supply}

theorem Takes.same (h : s.Takes x s') : s'.isRead = s.isRead ∧ s'.opening = s.opening ∧
    s'.subscriptions = s.subscriptions := by
  cases h with
  | @written s s' t kind hwriter hemit =>
    rw [EmbeddedSource.emit] at hemit
    split at hemit
    · cases hemit
      exact ⟨rfl, rfl, rfl⟩
    · cases hemit
  | left | shut => exact ⟨rfl, rfl, rfl⟩
  | @delivered s d =>
    rw [BrokerSource.queue]
    split <;> exact ⟨rfl, rfl, rfl⟩

/-- A supply is the last one that is pending, unless the end was supplied before. -/
theorem Takes.pending (h : s.Takes x s') (hread : s.isRead = true) :
    s'.pending = s.pending ++ [x] ∨ s'.pending = s.pending ∧ Supply.ended ∈ s.pending := by
  cases h with
  | @written s s' t kind hwriter hemit =>
    rw [isRead] at hread
    rw [EmbeddedSource.emit, if_pos hread] at hemit
    cases hemit
    left
    simp [AttachedSource.pending, hwriter]
  | @left s =>
    cases hwriter : s.hasWriter with
    | true => simp [AttachedSource.pending, hwriter]
    | false => simp [AttachedSource.pending, hwriter]
  | @delivered s d =>
    rw [isRead] at hread
    cases hopen : s.isOpen with
    | true => simp [AttachedSource.pending, BrokerSource.queue, BrokerSource.isHeard, hread, hopen]
    | false => simp [AttachedSource.pending, BrokerSource.queue, BrokerSource.isHeard, hopen]
  | @shut s =>
    cases hopen : s.isOpen with
    | true => simp [AttachedSource.pending, hopen]
    | false => simp [AttachedSource.pending, hopen]

theorem any_stops_of_ended_mem {l : List Supply} (h : Supply.ended ∈ l) : l.any Supply.stops = true :=
  List.any_eq_true.mpr ⟨_, h, rfl⟩

theorem plan_append (s : AttachedSource) (supplies : List Supply) (x : Supply) :
    s.plan (supplies ++ [x]) =
      if supplies.any Supply.stops then s.plan supplies else s.plan supplies ++ [.next x] := by
  have hlast : untilStop [x] = [x] := by
    rw [untilStop]
    split <;> rfl
  rw [plan, plan, untilStop_append, hlast]
  split
  · rfl
  · rw [List.map_append, List.append_assoc]
    rfl

theorem Takes.todo (h : s.Takes x s') (hread : s.isRead = true) :
    s'.todo = if s.pending.any Supply.stops then s.todo else s.todo ++ [.next x] := by
  obtain ⟨hread', hopening, -⟩ := h.same
  have hplan : ∀ supplies, s'.plan supplies = s.plan supplies := fun supplies => by
    rw [plan, plan, hopening]
  rw [todo_of_isRead hread, todo_of_isRead (hread'.trans hread), hplan]
  rcases h.pending hread with hpending | ⟨hpending, hended⟩
  · rw [hpending, plan_append]
  · rw [hpending, if_pos (any_stops_of_ended_mem hended)]

/-! ### Any order of steps and supplies -/

/-- What the reader of a source has asked, and what it is still going to ask, is what the supplies call for.
It is there until one of its calls stops it. -/
structure Accounts (start : AttachedSource) (supplies : List Supply) (calls : List ReaderCall)
    (s : AttachedSource) : Prop where
  plan_eq : calls ++ s.todo = start.plan supplies
  isRead_eq : s.isRead = !calls.any ReaderCall.stops
  subscriptions_eq : s.subscriptions = calls.filterMap ReaderCall.topics?

inductive IsFresh : AttachedSource → Prop
  | embedded (name : String) (n : Nat) : IsFresh (.embedded (.ofCapacity name n))
  | broker (name : String) (tables : List TableId) : IsFresh (.broker (.ofTables name tables))

theorem IsFresh.accounts (h : s.IsFresh) : s.Accounts [] [] s := by
  cases h with
  | embedded | broker => exact ⟨rfl, rfl, rfl⟩

variable {start : AttachedSource} {supplies : List Supply} {calls : List ReaderCall}

theorem Accounts.takes (h : start.Accounts supplies calls s) (htakes : s.Takes x s') :
    start.Accounts (supplies ++ [x]) calls s' := by
  obtain ⟨hread, -, hsubscriptions⟩ := htakes.same
  have hany := congrArg (List.any · ReaderCall.stops) h.plan_eq
  simp only [List.any_append, any_stops_plan] at hany
  refine ⟨?_, hread.trans h.isRead_eq, hsubscriptions.trans h.subscriptions_eq⟩
  rw [plan_append, ← h.plan_eq, ← hany]
  cases hcalls : calls.any ReaderCall.stops with
  -- once the reader has stopped, a supply adds nothing to the plan
  | true =>
    have hover : s.isRead = false := by rw [h.isRead_eq, hcalls]; rfl
    rw [todo_of_not_isRead hover, todo_of_not_isRead (hread.trans hover), Bool.true_or, if_pos rfl]
  | false =>
    have hthere : s.isRead = true := by rw [h.isRead_eq, hcalls]; rfl
    have htodo : s.todo.any ReaderCall.stops = s.pending.any Supply.stops := by
      rw [todo_of_isRead hthere, any_stops_plan]
    rw [htakes.todo hthere, htodo, Bool.false_or]
    split
    · rfl
    · rw [List.append_assoc]

theorem Accounts.reads (h : start.Accounts supplies calls s) {action : ReaderAction}
    (hreads : s.Reads action s') : start.Accounts supplies (calls ++ [s.call]) s' where
  plan_eq := by
    rw [← h.plan_eq, hreads.todo_eq, List.append_assoc]
    rfl
  isRead_eq := by
    have hnone := h.isRead_eq
    rw [hreads.isRead, eq_comm, Bool.not_eq_true'] at hnone
    rw [hreads.stops, List.any_append, hnone, Bool.false_or, List.any_cons, List.any_nil, Bool.or_false]
  subscriptions_eq := by
    rw [hreads.subscriptions_eq, h.subscriptions_eq, List.filterMap_append]
    cases s.call <;> rfl

end AttachedSource

end NestedRows
