import NestedRows.Session.Schedule
import NestedRows.Proofs.Live.Feed
import NestedRows.Proofs.Live.Reader
/-!
# What comes to a feed, and what a receiver hears of it

Sources are attached to a feed and supplied, their readers take steps, and events are published at once, in
any order. A run (`Intake.Runs`) is any sequence of such moves, with the list of what happened in it, as one
receiver of the feed hears it.

The sources have nothing to do with each other: for each of them the run is a run of its reader alone
(`Intake.Runs.tracked`). What connects them is the feed, which holds the events in the order in which they
were published (`Intake.Runs.hears`).
-/

namespace NestedRows

/-- A list is an interleaving of others if each of its elements comes from one of them, such that the elements
that come from a list are this list. -/
def Interleaves {ι α : Type} [DecidableEq ι] (lists : ι → List α) (l : List α) : Prop :=
  ∃ tagged : List (ι × α), tagged.map (·.2) = l ∧ ∀ i, (tagged.filter (·.1 = i)).map (·.2) = lists i

inductive Occurrence where
  | attached (id : Nat) (s : AttachedSource)
  | supplied (id : Nat) (x : Supply)
  | asked (id : Nat) (call : ReaderCall)
  /-- An event is published, by the reader of a source or at once. -/
  | published (origin : Option Nat) (e : ChangeEvent)
  | received (n : Notice)

/-- What happens when a reader asks its source and does something upon the answer. -/
def Occurrence.ofStep (id : Nat) (call : ReaderCall) : ReaderAction → List Occurrence
  | .publish e => [asked id call, published (some id) e]
  | .skip | .stop => [asked id call]

variable {r : ReceiverId} {id : Nat} {h more : List Occurrence}

def attachedAs (id : Nat) (h : List Occurrence) : List AttachedSource :=
  h.filterMap fun | .attached i s => if i = id then some s else none | _ => none

def suppliesTo (id : Nat) (h : List Occurrence) : List Supply :=
  h.filterMap fun | .supplied i x => if i = id then some x else none | _ => none

def callsOf (id : Nat) (h : List Occurrence) : List ReaderCall :=
  h.filterMap fun | .asked i call => if i = id then some call else none | _ => none

def publications (h : List Occurrence) : List (Option Nat × ChangeEvent) :=
  h.filterMap fun | .published origin e => some (origin, e) | _ => none

def publishedBy (origin : Option Nat) (h : List Occurrence) : List ChangeEvent :=
  ((publications h).filter (·.1 = origin)).map (·.2)

def receivedIn (h : List Occurrence) : List ChangeEvent :=
  h.filterMap fun | .received (.event e) => some e | _ => none

/-- The events that the feed is to have from the source with this number, or from those who publish at
once. -/
def dueFrom (h : List Occurrence) : Option Nat → List ChangeEvent
  | none => publishedBy none h
  | some id => eventsOf (suppliesTo id h)

theorem mem_attachedAs {s : AttachedSource} : s ∈ attachedAs id h ↔ .attached id s ∈ h := by
  rw [attachedAs, List.mem_filterMap]
  constructor
  · rintro ⟨o, hmem, heq⟩
    cases o with
    | attached i s' =>
      simp only [Option.ite_none_right_eq_some, Option.some.injEq] at heq
      obtain ⟨rfl, rfl⟩ := heq
      exact hmem
    | _ => cases heq
  · exact fun hmem => ⟨_, hmem, if_pos rfl⟩

theorem attachedAs_append : attachedAs id (h ++ more) = attachedAs id h ++ attachedAs id more :=
  List.filterMap_append

theorem suppliesTo_append : suppliesTo id (h ++ more) = suppliesTo id h ++ suppliesTo id more :=
  List.filterMap_append

theorem callsOf_append : callsOf id (h ++ more) = callsOf id h ++ callsOf id more :=
  List.filterMap_append

theorem publications_append : publications (h ++ more) = publications h ++ publications more :=
  List.filterMap_append

theorem receivedIn_append : receivedIn (h ++ more) = receivedIn h ++ receivedIn more :=
  List.filterMap_append

theorem publishedBy_append (origin : Option Nat) :
    publishedBy origin (h ++ more) = publishedBy origin h ++ publishedBy origin more := by
  rw [publishedBy, publications_append, List.filter_append, List.map_append]
  rfl

theorem ofStep_silent (i id : Nat) (call : ReaderCall) (action : ReaderAction) :
    attachedAs i (Occurrence.ofStep id call action) = [] ∧
      suppliesTo i (Occurrence.ofStep id call action) = [] := by
  cases action <;> exact ⟨rfl, rfl⟩

theorem callsOf_ofStep (i id : Nat) (call : ReaderCall) (action : ReaderAction) :
    callsOf i (Occurrence.ofStep id call action) = if id = i then [call] else [] := by
  by_cases hid : id = i <;> cases action <;> simp [callsOf, Occurrence.ofStep, hid]

theorem publications_ofStep (id : Nat) (call : ReaderCall) (action : ReaderAction) :
    publications (Occurrence.ofStep id call action) = (action.event?.map (some id, ·)).toList := by
  cases action <;> rfl

structure Intake where
  feed : Feed
  sources : SortedMap Nat AttachedSource := ∅

namespace Intake

variable {w w' : Intake}

def put (w : Intake) (id : Nat) (s : AttachedSource) : Intake :=
  { w with sources := w.sources.insert id s }

def perform (w : Intake) : ReaderAction → Intake
  | .publish e => { w with feed := w.feed.publish e }
  | .skip | .stop => w

/-- What may happen next. One receiver is looked at; others do with the feed what they like. -/
inductive Moves (r : ReceiverId) (w : Intake) : List Occurrence → Intake → Prop
  | attach (id : Nat) {s : AttachedSource} (hfree : w.sources.get? id = none) (hfresh : s.IsFresh) :
      Moves r w [.attached id s] (w.put id s)
  | supply (id : Nat) {s s' : AttachedSource} {x : Supply} (hsource : w.sources.get? id = some s)
      (htakes : s.Takes x s') : Moves r w [.supplied id x] (w.put id s')
  | read (id : Nat) {s s' : AttachedSource} (action : ReaderAction) (hsource : w.sources.get? id = some s)
      (hstep : s.step? = some (action, s')) :
      Moves r w (Occurrence.ofStep id s.call action) ((w.put id s').perform action)
  | publish (e : ChangeEvent) : Moves r w [.published none e] (w.perform (.publish e))
  | receive {n : Notice} {feed : Feed} (hreceive : w.feed.receive r = .notice n feed) :
      Moves r w [.received n] { w with feed }
  | others {feed : Feed} (hacts : w.feed.Acts (· ≠ r) feed) : Moves r w [] { w with feed }

inductive Runs (r : ReceiverId) (w : Intake) : List Occurrence → Intake → Prop
  | start : Runs r w [] w
  | next {h more : List Occurrence} {w' w'' : Intake} (hrun : Runs r w h w') (hmove : w'.Moves r more w'') :
      Runs r w (h ++ more) w''

def ofSession (s : Session) : Intake := ⟨s.live.feed, s.sources⟩

/-- A reader of a session takes such a step. -/
theorem moves_of_stepTask? {s s' : Session} (r : ReceiverId) (h : s.stepTask? (.reader id) = some s') :
    ∃ more, (ofSession s).Moves r more (ofSession s') := by
  simp only [Session.stepTask?, Option.pure_def, Option.bind_eq_bind, Option.bind_eq_some_iff,
    Option.some.injEq] at h
  obtain ⟨source, hsource, ⟨action, source'⟩, hstep, rfl⟩ := h
  have hmove := Moves.read (w := ofSession s) (r := r) id action hsource hstep
  refine ⟨Occurrence.ofStep id source.call action, ?_⟩
  cases action <;> exact hmove

@[simp] theorem get?_put_self (w : Intake) (id : Nat) (s : AttachedSource) :
    (w.put id s).sources.get? id = some s :=
  SortedMap.get?_insert_self _ _ _

theorem get?_put_of_ne (w : Intake) {i id : Nat} (s : AttachedSource) (hne : i ≠ id) :
    (w.put id s).sources.get? i = w.sources.get? i :=
  SortedMap.get?_insert_of_ne _ _ hne

@[simp] theorem sources_perform (w : Intake) (action : ReaderAction) :
    (w.perform action).sources = w.sources := by
  cases action <;> rfl

/-! ### The sources -/

/-- What happened to the source with this number: it is not attached, or its reader has done what its supplies
call for. -/
def Tracked (h : List Occurrence) (id : Nat) : Option AttachedSource → Prop
  | none => attachedAs id h = [] ∧ suppliesTo id h = [] ∧ callsOf id h = []
  | some s => ∃ start, attachedAs id h = [start] ∧ start.Accounts (suppliesTo id h) (callsOf id h) s

theorem Tracked.unchanged {s? : Option AttachedSource} (ht : Tracked h id s?)
    (hattached : attachedAs id more = []) (hsupplies : suppliesTo id more = [])
    (hcalls : callsOf id more = []) : Tracked (h ++ more) id s? := by
  cases s? with
  | none =>
    rw [Tracked, attachedAs_append, suppliesTo_append, callsOf_append, hattached, hsupplies, hcalls]
    simpa [Tracked] using ht
  | some s =>
    rw [Tracked, attachedAs_append, suppliesTo_append, callsOf_append, hattached, hsupplies, hcalls]
    simpa [Tracked] using ht

theorem Moves.tracked (hmove : w.Moves r more w') (id : Nat) (ht : Tracked h id (w.sources.get? id)) :
    Tracked (h ++ more) id (w'.sources.get? id) := by
  cases hmove with
  | @attach i s hfree hfresh =>
    by_cases hid : id = i
    · subst hid
      rw [hfree] at ht
      obtain ⟨hattached, hsupplies, hcalls⟩ := ht
      rw [get?_put_self, Tracked, attachedAs_append, suppliesTo_append, callsOf_append, hattached, hsupplies,
        hcalls]
      exact ⟨s, by simp [attachedAs], hfresh.accounts⟩
    · rw [get?_put_of_ne w s hid]
      exact ht.unchanged (by simp [attachedAs, Ne.symm hid]) rfl rfl
  | @supply i s s' x hsource htakes =>
    by_cases hid : id = i
    · subst hid
      rw [hsource] at ht
      obtain ⟨start, hattached, haccounts⟩ := ht
      have hsupplies : suppliesTo id [.supplied id x] = [x] := by simp [suppliesTo]
      rw [get?_put_self, Tracked, attachedAs_append, suppliesTo_append, callsOf_append, hattached, hsupplies]
      exact ⟨start, rfl, (List.append_nil (callsOf id h)).symm ▸ haccounts.takes htakes⟩
    · rw [get?_put_of_ne w s' hid]
      exact ht.unchanged rfl (by simp [suppliesTo, Ne.symm hid]) rfl
  | @read i s s' action hsource hstep =>
    obtain ⟨hattached', hsupplies'⟩ := ofStep_silent id i s.call action
    have hcalls' := callsOf_ofStep id i s.call action
    rw [sources_perform]
    by_cases hid : id = i
    · subst hid
      rw [hsource] at ht
      obtain ⟨start, hattached, haccounts⟩ := ht
      rw [if_pos rfl] at hcalls'
      rw [get?_put_self, Tracked, attachedAs_append, suppliesTo_append, callsOf_append, hattached, hattached',
        hsupplies', hcalls', List.append_nil, List.append_nil]
      exact ⟨start, rfl, haccounts.reads (AttachedSource.reads_of_step? hstep)⟩
    · rw [if_neg (Ne.symm hid)] at hcalls'
      rw [get?_put_of_ne w s' hid]
      exact ht.unchanged hattached' hsupplies' hcalls'
  | publish | receive | others => exact ht.unchanged rfl rfl rfl

theorem Runs.tracked {feed : Feed} (hrun : Runs r ⟨feed, ∅⟩ h w) (id : Nat) :
    Tracked h id (w.sources.get? id) := by
  induction hrun with
  | start => exact ⟨rfl, rfl, rfl⟩
  | next _ hmove ih => exact hmove.tracked id ih

theorem Runs.publishedBy_eq (hrun : Runs r w h w') (id : Nat) :
    publishedBy (some id) h = (callsOf id h).filterMap (·.action.event?) := by
  induction hrun with
  | start => rfl
  | next _ hmove ih =>
    rw [publishedBy_append, callsOf_append, List.filterMap_append, ih]
    congr 1
    cases hmove with
    | @read i s s' action hsource hstep =>
      rw [publishedBy, publications_ofStep, callsOf_ofStep, (AttachedSource.reads_of_step? hstep).action_eq]
      by_cases hid : i = id
      · cases hevent : s.call.action.event? <;> simp [hid, hevent]
      · cases hevent : s.call.action.event? <;> simp [hid]
    | attach | supply | publish | receive | others => rfl

theorem events_plan (start : AttachedSource) (supplies : List Supply) :
    (start.plan supplies).filterMap (·.action.event?) = eventsOf supplies := by
  have hopening : start.opening.filterMap (·.action.event?) = [] := by
    cases start with
    | embedded s => rfl
    | broker s =>
      rw [AttachedSource.opening]
      split <;> rfl
  rw [AttachedSource.plan, List.filterMap_append, hopening, List.nil_append, List.filterMap_map]
  exact congrArg (List.filterMap · _) (funext Supply.event?_action)

/-- What a reader has asked and published, and what it goes on to ask and publish by itself, is what the
supplies call for. -/
theorem Runs.source_cases {feed : Feed} (hrun : Runs r ⟨feed, ∅⟩ h w) (id : Nat) :
    (w.sources.get? id = none ∧ attachedAs id h = [] ∧ suppliesTo id h = [] ∧ publishedBy (some id) h = []) ∨
    ∃ start s, attachedAs id h = [start] ∧ w.sources.get? id = some s ∧
      callsOf id h ++ s.reading.map (·.1) = start.plan (suppliesTo id h) ∧
      publishedBy (some id) h ++ s.reading.filterMap (·.2.event?) = eventsOf (suppliesTo id h) ∧
      s.subscriptions = (callsOf id h).filterMap ReaderCall.topics? := by
  have htracked := hrun.tracked id
  have hpublished := hrun.publishedBy_eq id
  cases hsource : w.sources.get? id with
  | none =>
    rw [hsource] at htracked
    obtain ⟨hattached, hsupplies, hcalls⟩ := htracked
    rw [hcalls] at hpublished
    exact .inl ⟨rfl, hattached, hsupplies, hpublished⟩
  | some s =>
    rw [hsource] at htracked
    obtain ⟨start, hattached, haccounts⟩ := htracked
    have hcalls : s.reading.map (·.1) = s.todo := by
      rw [s.reading_eq, List.map_map]
      exact List.map_id _
    have hevents : s.reading.filterMap (·.2.event?) = s.todo.filterMap (·.action.event?) := by
      rw [s.reading_eq, List.filterMap_map]
      rfl
    refine .inr ⟨start, s, hattached, rfl, ?_, ?_, haccounts.subscriptions_eq⟩
    · rw [hcalls]
      exact haccounts.plan_eq
    · rw [hpublished, hevents, ← List.filterMap_append, haccounts.plan_eq, events_plan]

/-! ### The receiver -/

/-- The feed holds what was published before and in the run. The receiver has its place in it, and unless it was
told to have lost something it has heard all that comes before. -/
structure Hears (earlier : List ChangeEvent) (r : ReceiverId) (h : List Occurrence) (f : Feed) : Prop where
  holds : f.Holds (earlier ++ (publications h).map (·.2))
  issued : r < f.issued
  heard : ∃ place ≤ (earlier ++ (publications h).map (·.2)).length, f.receivers.get? r = some place ∧
    ((∀ lost, .received (.lagged lost) ∉ h) →
      (earlier ++ (publications h).map (·.2)).take place = earlier ++ receivedIn h)

theorem hears_subscribe {feed : Feed} {earlier : List ChangeEvent} (h : feed.Holds earlier) :
    Hears earlier feed.subscribe.1 [] feed.subscribe.2 := by
  have hplace : feed.published = (earlier ++ (publications []).map (·.2)).length := by
    rw [h.published]
    exact congrArg List.length (List.append_nil earlier).symm
  refine ⟨?_, Nat.lt_succ_self _, feed.published, hplace.le, SortedMap.get?_insert_self _ _ _, fun _ => ?_⟩
  · exact (List.append_nil earlier).symm ▸ ⟨h.published, h.kept⟩
  · rw [hplace, List.take_length]
    rfl

theorem Hears.unchanged {earlier : List ChangeEvent} {f f' : Feed} (hh : Hears earlier r h f)
    (hmore : publications more = [] ∧ receivedIn more = [] ∧ ∀ lost, .received (.lagged lost) ∉ more)
    (hholds : f'.Holds (earlier ++ (publications h).map (·.2))) (hissued : f.issued ≤ f'.issued)
    (hreceivers : f'.receivers.get? r = f.receivers.get? r) : Hears earlier r (h ++ more) f' := by
  obtain ⟨place, hle, hplace, hheard⟩ := hh.heard
  obtain ⟨hpublications, hreceived, hlagged⟩ := hmore
  have hsame : publications (h ++ more) = publications h := by
    rw [publications_append, hpublications, List.append_nil]
  refine ⟨hsame ▸ hholds, Nat.lt_of_lt_of_le hh.issued hissued, place, hsame ▸ hle, hreceivers.trans hplace,
    fun hnone => ?_⟩
  rw [hsame, receivedIn_append, hreceived, List.append_nil]
  exact hheard fun lost hmem => hnone lost (List.mem_append_left _ hmem)

theorem Hears.publish {earlier : List ChangeEvent} {f : Feed} (hh : Hears earlier r h f) {e : ChangeEvent}
    {origin : Option Nat} (hmore : publications more = [(origin, e)] ∧ receivedIn more = []) :
    Hears earlier r (h ++ more) (f.publish e) := by
  obtain ⟨place, hle, hplace, hheard⟩ := hh.heard
  obtain ⟨hpublications, hreceived⟩ := hmore
  have hall : earlier ++ (publications (h ++ more)).map (·.2) =
      earlier ++ (publications h).map (·.2) ++ [e] := by
    rw [publications_append, hpublications, List.map_append, List.append_assoc]
    rfl
  refine ⟨hall ▸ hh.holds.publish e, hh.issued, place, ?_, hplace, fun hnone => ?_⟩
  · rw [hall, List.length_append]
    exact Nat.le_add_right_of_le hle
  · rw [hall, List.take_append_of_le_length hle, receivedIn_append, hreceived, List.append_nil]
    exact hheard fun lost hmem => hnone lost (List.mem_append_left _ hmem)

theorem Hears.receive {earlier : List ChangeEvent} {f f' : Feed} {n : Notice} (hh : Hears earlier r h f)
    (hreceive : f.receive r = .notice n f') : Hears earlier r (h ++ [.received n]) f' := by
  obtain ⟨place, hle, hplace, hheard⟩ := hh.heard
  obtain ⟨place', hle', rfl, hevent⟩ := hh.holds.seek_of_receive hplace hle hreceive
  have hsame : publications (h ++ [.received n]) = publications h := by
    rw [publications_append]
    exact List.append_nil _
  refine ⟨hsame ▸ hh.holds.seek r place', hh.issued, place', hsame ▸ hle', f.get?_receivers_seek r place',
    fun hnone => ?_⟩
  cases n with
  | lagged lost => exact absurd (List.mem_append_right _ (List.mem_singleton_self _)) (hnone lost)
  | event e =>
    obtain ⟨hnext, rfl⟩ := hevent e rfl
    have hbefore := hheard fun lost hmem => hnone lost (List.mem_append_left _ hmem)
    rw [hsame, List.take_add_one, hnext, hbefore, receivedIn_append, List.append_assoc]
    rfl

theorem Moves.hears {earlier : List ChangeEvent} (hmove : w.Moves r more w')
    (hh : Hears earlier r h w.feed) : Hears earlier r (h ++ more) w'.feed := by
  cases hmove with
  | attach | supply =>
    exact hh.unchanged ⟨rfl, rfl, by simp⟩ hh.holds (Nat.le_refl _) rfl
  | @read i s s' action hsource hstep =>
    cases action with
    | publish e => exact hh.publish ⟨rfl, rfl⟩
    | skip | stop =>
      exact hh.unchanged ⟨rfl, rfl, by simp [Occurrence.ofStep]⟩ hh.holds (Nat.le_refl _) rfl
  | publish e => exact hh.publish ⟨rfl, rfl⟩
  | receive hreceive => exact hh.receive hreceive
  | others hacts =>
    exact hh.unchanged ⟨rfl, rfl, by simp⟩ (hacts.holds hh.holds) hacts.issued_le
      (hacts.get?_receivers (fun hne => hne rfl) hh.issued)

theorem Runs.hears {earlier : List ChangeEvent} (hrun : Runs r w h w') (hh : Hears earlier r [] w.feed) :
    Hears earlier r h w'.feed := by
  induction hrun with
  | start => exact hh
  | next _ hmove ih => exact hmove.hears ih

/-- A receiver that has lost nothing has heard the first of the events that were published, and all of them once
it has caught up. -/
theorem Runs.received {feed : Feed} (hfeed : ∃ earlier, feed.Holds earlier)
    (hrun : Runs feed.subscribe.1 ⟨feed.subscribe.2, ∅⟩ h w) (hnone : ∀ lost, .received (.lagged lost) ∉ h) :
    receivedIn h <+: (publications h).map (·.2) ∧
      (w.feed.backlog feed.subscribe.1 = 0 → receivedIn h = (publications h).map (·.2)) := by
  obtain ⟨earlier, hearlier⟩ := hfeed
  obtain ⟨hholds, -, place, hle, hplace, hheard⟩ := hrun.hears (hears_subscribe hearlier)
  have htake := hheard hnone
  constructor
  · have hbefore := List.take_prefix place (earlier ++ (publications h).map (·.2))
    rw [htake] at hbefore
    exact (List.prefix_append_right_inj _).mp hbefore
  · intro hbacklog
    rw [Feed.backlog, hplace, hholds.published] at hbacklog
    rw [List.take_of_length_le (Nat.sub_eq_zero_iff_le.mp hbacklog)] at htake
    exact (List.append_cancel_left htake).symm

/-! ### All together -/

/-- Sources reach the feed without loss, duplication or reordering. The reader of a source publishes the
events that its supplies bring up to the first stop, and a broker source has subscribed to all its topics
before, once. A receiver that was there before the sources and has lost nothing hears an interleaving of what
comes from each. -/
theorem Runs.conveys {n : Nat} {feed : Feed} (hfeed : feed.Reachable n)
    (hrun : Runs feed.subscribe.1 ⟨feed.subscribe.2, ∅⟩ h w) :
    (∀ id start, .attached id start ∈ h → ∃ s, w.sources.get? id = some s ∧
      publishedBy (some id) h ++ s.reading.filterMap (·.2.event?) = eventsOf (suppliesTo id h)) ∧
    (∀ id name tables, .attached id (.broker (.ofTables name tables)) ∈ h →
      ∃ s, w.sources.get? id = some s ∧
        callsOf id h ++ s.reading.map (·.1) =
          .subscribe (tables.map (topicName name)) :: (untilStop (suppliesTo id h)).map .next ∧
        s.subscriptions = (callsOf id h).filterMap ReaderCall.topics?) ∧
    ((∀ lost, .received (.lagged lost) ∉ h) → receivedIn h <+: (publications h).map (·.2) ∧
      (w.feed.backlog feed.subscribe.1 = 0 → (∀ id s, w.sources.get? id = some s → s.step? = none) →
        Interleaves (dueFrom h) (receivedIn h))) := by
  refine ⟨fun id start hmem => ?_, fun id name tables hmem => ?_, fun hnone => ?_⟩
  · rcases hrun.source_cases id with ⟨-, hattached, -⟩ | ⟨_, s, -, hsource, -, hevents, -⟩
    · rw [← mem_attachedAs, hattached] at hmem
      cases hmem
    · exact ⟨s, hsource, hevents⟩
  · rcases hrun.source_cases id with ⟨-, hattached, -⟩ | ⟨start, s, hattached, hsource, hcalls, -, htopics⟩
    · rw [← mem_attachedAs, hattached] at hmem
      cases hmem
    · rw [← mem_attachedAs, hattached, List.mem_singleton] at hmem
      subst hmem
      exact ⟨s, hsource, hcalls, htopics⟩
  · -- what was published, with where it came from, is what shows the interleaving
    obtain ⟨hbefore, hall⟩ := hrun.received hfeed.exists_holds hnone
    refine ⟨hbefore, fun hbacklog hwaiting => ⟨publications h, (hall hbacklog).symm, ?_⟩⟩
    rintro (_ | id)
    · rfl
    · show publishedBy (some id) h = eventsOf (suppliesTo id h)
      rcases hrun.source_cases id with ⟨-, -, hsupplies, hpublished⟩ | ⟨_, s, -, hsource, -, hevents, -⟩
      · rw [hpublished, hsupplies]
        rfl
      · rwa [s.reading_eq, AttachedSource.todo_of_step?_eq_none (hwaiting id s hsource), List.map_nil,
          List.filterMap_nil, List.append_nil] at hevents

def orderCreated : ChangeEvent := ⟨"shop", ⟨"public", "orders"⟩, .create⟩

def orderUpdated : ChangeEvent := ⟨"shop", ⟨"public", "orders"⟩, .update⟩

def customerDeleted : ChangeEvent := ⟨"shop", ⟨"public", "customers"⟩, .delete⟩

/-- A broker source, an embedded source and an event that is published at once. -/
def mixed : List Occurrence :=
  [.attached 0 (.broker (.ofTables "shop" [orderCreated.table])),
    .attached 1 (.embedded (.ofCapacity "shop" 2)),
    .supplied 0 (.delivered (.message (.encode orderCreated))),
    .supplied 1 (.written customerDeleted),
    .asked 0 (.subscribe [orderCreated.topic]),
    .published none orderUpdated,
    .asked 1 (.next (.written customerDeleted)), .published (some 1) customerDeleted,
    .asked 0 (.next (.delivered (.message (.encode orderCreated)))), .published (some 0) orderCreated,
    .received (.event orderUpdated),
    .received (.event customerDeleted),
    .received (.event orderCreated)]

/-- The state in such a run: what was published and how much of it the receiver has read, the subscriptions and
the inbox of the broker source, and the queue of the embedded one. -/
def mixedState (published : List ChangeEvent) (seen : Nat) (subscriptions : List (List String))
    (inbox : List Delivery) (queue : List ChangeEvent) : Intake where
  feed := {
    capacity := 4
    published := published.length
    kept := published
    receivers := (∅ : SortedMap ReceiverId Nat).insert 0 seen
    issued := 1 }
  sources := ((∅ : SortedMap Nat AttachedSource).insert 0
    (.broker { topics := [orderCreated.topic], subscriptions, inbox })).insert 1
    (.embedded { name := "shop", capacity := 2, queue })

theorem runs_mixed : Runs 0 ⟨({ capacity := 4 } : Feed).subscribe.2, ∅⟩ mixed
    (mixedState [orderUpdated, customerDeleted, orderCreated] 3 [[orderCreated.topic]] [] []) := by
  have haction : (Delivery.message (.encode orderCreated)).action = .publish orderCreated :=
    (Delivery.action_encode _).trans (if_pos (by decide))
  have hstep : (AttachedSource.broker
      { topics := [orderCreated.topic], subscriptions := [[orderCreated.topic]],
        inbox := [.message (.encode orderCreated)] }).step? =
      some (.publish orderCreated, .broker
        { topics := [orderCreated.topic], subscriptions := [[orderCreated.topic]] }) := by
    rw [AttachedSource.step?, BrokerSource.step?_of_inbox rfl (List.cons_ne_nil _ _) rfl (by simp [haction]),
      haction]
    rfl
  have hattach : Runs 0 ⟨({ capacity := 4 } : Feed).subscribe.2, ∅⟩ _ (mixedState [] 0 [] [] []) :=
    (Runs.start.next (.attach 0 rfl (.broker "shop" [orderCreated.table]))).next
      (.attach 1 rfl (.embedded "shop" 2))
  have hdeliver : Moves 0 (mixedState [] 0 [] [] [])
      [.supplied 0 (.delivered (.message (.encode orderCreated)))]
      (mixedState [] 0 [] [.message (.encode orderCreated)] []) :=
    .supply 0 rfl .delivered
  have hwrite : Moves 0 (mixedState [] 0 [] [.message (.encode orderCreated)] [])
      [.supplied 1 (.written customerDeleted)]
      (mixedState [] 0 [] [.message (.encode orderCreated)] [customerDeleted]) :=
    .supply 1 rfl (.written rfl rfl)
  have hsubscribe : Moves 0 (mixedState [] 0 [] [.message (.encode orderCreated)] [customerDeleted]) _
      (mixedState [] 0 [[orderCreated.topic]] [.message (.encode orderCreated)] [customerDeleted]) :=
    .read 0 .skip rfl rfl
  have hpublish : Moves 0
      (mixedState [] 0 [[orderCreated.topic]] [.message (.encode orderCreated)] [customerDeleted]) _
      (mixedState [orderUpdated] 0 [[orderCreated.topic]] [.message (.encode orderCreated)]
        [customerDeleted]) :=
    .publish orderUpdated
  have htake : Moves 0
      (mixedState [orderUpdated] 0 [[orderCreated.topic]] [.message (.encode orderCreated)]
        [customerDeleted]) _
      (mixedState [orderUpdated, customerDeleted] 0 [[orderCreated.topic]]
        [.message (.encode orderCreated)] []) :=
    .read 1 (.publish customerDeleted) rfl rfl
  have hpoll : Moves 0
      (mixedState [orderUpdated, customerDeleted] 0 [[orderCreated.topic]]
        [.message (.encode orderCreated)] []) _
      (mixedState [orderUpdated, customerDeleted, orderCreated] 0 [[orderCreated.topic]] [] []) :=
    .read 0 (.publish orderCreated) rfl hstep
  have hfirst : Moves 0
      (mixedState [orderUpdated, customerDeleted, orderCreated] 0 [[orderCreated.topic]] [] []) _
      (mixedState [orderUpdated, customerDeleted, orderCreated] 1 [[orderCreated.topic]] [] []) :=
    .receive rfl
  have hsecond : Moves 0
      (mixedState [orderUpdated, customerDeleted, orderCreated] 1 [[orderCreated.topic]] [] []) _
      (mixedState [orderUpdated, customerDeleted, orderCreated] 2 [[orderCreated.topic]] [] []) :=
    .receive rfl
  have hthird : Moves 0
      (mixedState [orderUpdated, customerDeleted, orderCreated] 2 [[orderCreated.topic]] [] []) _
      (mixedState [orderUpdated, customerDeleted, orderCreated] 3 [[orderCreated.topic]] [] []) :=
    .receive rfl
  exact ((((((((hattach.next hdeliver).next hwrite).next hsubscribe).next hpublish).next htake).next hpoll).next
    hfirst).next hsecond).next hthird

theorem conveys_mixed :
    ({ capacity := 4 } : Feed).Reachable 4 ∧
      eventsOf (suppliesTo 0 mixed) = [orderCreated] ∧
      publishedBy (some 0) mixed = [orderCreated] ∧
      callsOf 0 mixed =
        [.subscribe [orderCreated.topic], .next (.delivered (.message (.encode orderCreated)))] ∧
      Interleaves (dueFrom mixed) [orderUpdated, customerDeleted, orderCreated] := by
  have hcapacity : (Feed.ofCapacity 4).capacity = 4 := by decide +kernel
  have hfeed : Feed.ofCapacity 4 = { capacity := 4 } :=
    congrArg (fun n : Nat => ({ capacity := n } : Feed)) hcapacity
  have hreachable : ({ capacity := 4 } : Feed).Reachable 4 := hfeed ▸ .start
  obtain ⟨hevents, hcalls, hreceived⟩ := runs_mixed.conveys hreachable
  obtain ⟨s, hsource, hevents⟩ := hevents 0 _ (List.mem_cons_self ..)
  obtain rfl := Option.some.inj hsource
  rw [AttachedSource.reading_eq] at hevents
  refine ⟨hreachable, hevents.symm, rfl, rfl, ?_⟩
  refine (hreceived (by simp [mixed])).2 rfl fun id s hsource => ?_
  by_cases hone : id = 1
  · subst hone
    obtain rfl := Option.some.inj hsource
    rfl
  by_cases hzero : id = 0
  · subst hzero
    obtain rfl := Option.some.inj hsource
    rfl
  rw [mixedState, SortedMap.get?_insert_of_ne _ _ hone, SortedMap.get?_insert_of_ne _ _ hzero] at hsource
  cases hsource

end Intake

end NestedRows
