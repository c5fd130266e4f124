import NestedRows.Proofs.Live.Sending
import Mathlib.Data.List.Induction
import Mathlib.Data.Set.Card
/-!
# Live queries that come and go

A hub is the live queries of a feed with the subscriptions that are under way, and notes of what happened
to each live query (`LiveHub`). In it subscriptions are made, cancelled and dropped, tasks take their steps,
changes are published and the feed is closed, in any order (`LiveHub.act`). A subscription takes three acts,
so that anything may happen after a live query is registered and before its task begins, and again before it
is known how the task can be aborted. A cancellation only asks the task to end. The end is another act, and
the task may take any steps before it.

By the notes, a live query is current from its registration until its task ends or it is cancelled
(`Current`). All that an act can do is said once (`LiveHub.Turn`), and what is registered is going on after
every turn (`LiveHub.Sound`).
-/

namespace NestedRows

/-- What is noted of a live query. -/
inductive Note where
  | registered (id : LiveQueryId) (query : CompiledQuery) (namespaceName : String)
  /-- The task took a step, which may have been its last. -/
  | worked (id : LiveQueryId) (happenings : List Happening) (last : Bool)
  | cancelled (id : LiveQueryId) (answer : Bool)
  /-- The subscriber took updates. -/
  | took (id : LiveQueryId) (updates : List Update)

namespace Note

/-- The live query that the note is about. -/
def subject : Note → LiveQueryId
  | .registered id _ _ | .worked id _ _ | .cancelled id _ | .took id _ => id

/-- The task of the live query ended, or the live query was cancelled. -/
def Releases (id : LiveQueryId) : Note → Prop
  | .worked j _ last => j = id ∧ last = true
  | .cancelled j _ => j = id
  | .registered .. | .took .. => False

/-- A cancellation of the live query was answered with yes. -/
def confirms (id : LiveQueryId) : Note → Bool
  | .cancelled j answer => j == id && answer
  | .registered .. | .worked .. | .took .. => false

/-- What was handed over. -/
def updates : Note → List Update
  | .worked _ happenings _ => updatesIn happenings
  | .registered .. | .cancelled .. | .took .. => []

/-- The note tells neither the beginning of a live query nor its end. -/
def IsQuiet : Note → Prop
  | .worked _ _ last => last = false
  | .took .. => True
  | .registered .. | .cancelled .. => False

variable {n : Note} {id : LiveQueryId}

theorem IsQuiet.not_releases (h : n.IsQuiet) : ¬ n.Releases id := by
  cases n with
  | worked j happenings last =>
    rintro ⟨-, hlast⟩
    exact Bool.false_ne_true (Eq.trans (Eq.symm h) hlast)
  | took => exact not_false
  | registered | cancelled => exact h.elim

theorem IsQuiet.ne_registered (h : n.IsQuiet) (query : CompiledQuery) (namespaceName : String) :
    n ≠ .registered id query namespaceName := by
  rintro rfl
  exact h

theorem IsQuiet.confirms_eq (h : n.IsQuiet) : n.confirms id = false := by
  cases n with
  | worked | took => rfl
  | registered | cancelled => exact h.elim

end Note

/-- The live query was subscribed, and since then its task has not ended and it was not cancelled. -/
def Current (notes : List Note) (id : LiveQueryId) (query : CompiledQuery) (namespaceName : String) :
    Prop :=
  ∃ before after, notes = before ++ .registered id query namespaceName :: after ∧
    ∀ n ∈ after, ¬ n.Releases id

section Current

variable {notes : List Note} {id : LiveQueryId} {query : CompiledQuery} {namespaceName : String} {n : Note}

theorem current_concat : Current (notes ++ [n]) id query namespaceName ↔
    n = .registered id query namespaceName ∨ Current notes id query namespaceName ∧ ¬ n.Releases id := by
  constructor
  · rintro ⟨before, after, heq, hafter⟩
    rcases List.eq_nil_or_concat after with rfl | ⟨after, m, rfl⟩
    · exact .inl (List.singleton_inj.mp (List.append_inj' heq rfl).2)
    · rw [List.concat_eq_append] at heq hafter
      rw [← List.cons_append, ← List.append_assoc] at heq
      obtain ⟨rfl, hlast⟩ := List.append_inj' heq rfl
      obtain rfl := List.singleton_inj.mp hlast
      exact .inr ⟨⟨before, after, rfl, fun m hm => hafter m (List.mem_append_left _ hm)⟩,
        hafter n (List.mem_append_right _ (List.mem_singleton_self n))⟩
  · rintro (rfl | ⟨⟨before, after, rfl, hafter⟩, hn⟩)
    · exact ⟨notes, [], rfl, by simp⟩
    · refine ⟨before, after ++ [n], by simp, fun m hm => ?_⟩
      rcases List.mem_append.mp hm with hm | hm
      · exact hafter m hm
      · rwa [List.mem_singleton.mp hm]

theorem not_current_nil : ¬ Current [] id query namespaceName := by
  rintro ⟨before, after, heq, -⟩
  simp at heq

/-- A note that neither registers nor releases the live query makes no difference. -/
theorem current_concat_of_not (hregistered : ∀ query namespaceName, n ≠ .registered id query namespaceName)
    (hreleases : ¬ n.Releases id) :
    Current (notes ++ [n]) id query namespaceName ↔ Current notes id query namespaceName := by
  rw [current_concat, or_iff_right (hregistered query namespaceName), and_iff_left hreleases]

end Current

/-! ### Acts -/

/-- What a subscription has still to do. -/
inductive Remainder where
  /-- The task is to begin. -/
  | spawn (q : LiveQuery)
  /-- The registry is to learn how the task can be aborted. -/
  | arm

/-- The live queries of a feed with the subscriptions under way, and what was noted so far. -/
structure LiveHub where
  live : LiveQueries
  underWay : SortedMap LiveQueryId Remainder := ∅
  notes : List Note := []

/-- What may be done next. A step of a task comes with what it looks at first, its time and the state that
the source is in. -/
inductive LiveAct (σ : Type) where
  | register (query : CompiledQuery) (namespaceName : String)
  /-- A subscription under way goes on. -/
  | proceed (id : LiveQueryId)
  | cancel (id : LiveQueryId)
  /-- A task that was asked to end does so. -/
  | abort (id : LiveQueryId) (state : σ)
  /-- The subscriber drops the live query. -/
  | leave (id : LiveQueryId)
  | take (id : LiveQueryId)
  | takeAll (id : LiveQueryId)
  | step (id : LiveQueryId) (first : Glance) (now : Nat) (state : σ)
  | publish (e : ChangeEvent)
  | close

variable {σ : Type}

/-- The live query that is acted on. -/
def LiveAct.subject? : LiveAct σ → Option LiveQueryId
  | .proceed id | .cancel id | .abort id _ | .leave id | .take id | .takeAll id | .step id _ _ _ => some id
  | .register .. | .publish _ | .close => none

/-- The acts that are not on the live query. -/
def LiveAct.apartFrom (id : LiveQueryId) (acts : List (LiveAct σ)) : List (LiveAct σ) :=
  acts.filter fun a => a.subject? != some id

/-- What happens with the next step of a live query. -/
def LiveQueries.doings (source : DeferredSource σ) (d : Dialect) (first : Glance) (l : LiveQueries)
    (id : LiveQueryId) (state : σ) : List Happening :=
  match l.tasks.get? id with
  | none => []
  | some q => q.doings source d first l.feed state

namespace LiveHub

def note (w : LiveHub) (n : Note) : LiveHub := { w with notes := w.notes ++ [n] }

def notesOf (w : LiveHub) (id : LiveQueryId) : List Note := w.notes.filter fun n => n.subject == id

/-- The updates that were handed over to the subscriber of the live query, the oldest first. -/
def updatesOf (w : LiveHub) (id : LiveQueryId) : List Update := (w.notesOf id).flatMap Note.updates

/-- The hub after an act. One that is not possible changes nothing. -/
def act (source : DeferredSource σ) (d : Dialect) (w : LiveHub) : LiveAct σ → LiveHub
  | .register query namespaceName =>
    let (id, q, live) := w.live.register query namespaceName
    { w with live, underWay := w.underWay.insert id (.spawn q) }.note (.registered id query namespaceName)
  | .proceed id =>
    match w.underWay.get? id with
    | none => w
    | some (.spawn q) => { w with live := w.live.spawn id q, underWay := w.underWay.insert id .arm }
    | some .arm => { w with live := w.live.arm id, underWay := w.underWay.erase id }
  | .cancel id =>
    let (answer, live) := w.live.cancel id
    { w with live }.note (.cancelled id answer)
  | .abort id state => { w with live := (w.live.abort source id state).1 }
  | .leave id => { w with live := w.live.leave id }
  | .take id =>
    match w.live.take? id with
    | none => w
    | some (u, live) => { w with live }.note (.took id [u])
  | .takeAll id =>
    let (updates, live) := w.live.takeAll id
    { w with live }.note (.took id updates)
  | .step id first now state =>
    match w.live.step? source d first now id state with
    | none => w
    | some (live, _) =>
      { w with live }.note (.worked id (w.live.doings source d first id state) (live.hasStopped id))
  | .publish e => { w with live := (w.live.publish e).2 }
  | .close => { w with live := { w.live with feed := w.live.feed.close } }

theorem act_spawn (source : DeferredSource σ) (d : Dialect) {w : LiveHub} {id : LiveQueryId}
    {q : LiveQuery} (h : w.underWay.get? id = some (.spawn q)) : w.act source d (.proceed id)
      = { w with live := w.live.spawn id q, underWay := w.underWay.insert id .arm } := by
  rw [act, h]

theorem act_arm (source : DeferredSource σ) (d : Dialect) {w : LiveHub} {id : LiveQueryId}
    (h : w.underWay.get? id = some .arm) :
    w.act source d (.proceed id) = { w with live := w.live.arm id, underWay := w.underWay.erase id } := by
  rw [act, h]

/-- A subscription is its three acts in a row. -/
theorem live_subscribe (source : DeferredSource σ) (d : Dialect) (w : LiveHub) (query : CompiledQuery)
    (namespaceName : String) :
    ([.register query namespaceName, .proceed w.live.issued, .proceed w.live.issued].foldl
      (act source d) w).live = (w.live.subscribe query namespaceName).2 := by
  have hspawn := act_spawn source d (w := w.act source d (.register query namespaceName))
    (SortedMap.get?_insert_self _ _ _)
  rw [List.foldl_cons, List.foldl_cons, List.foldl_cons, hspawn,
    act_arm source d (SortedMap.get?_insert_self _ _ _)]
  rfl

/-- The hub after acts on the live queries of a new feed. -/
def run (source : DeferredSource σ) (d : Dialect) (config : LiveConfig) (acts : List (LiveAct σ)) :
    LiveHub :=
  acts.foldl (act source d) { live := .ofConfig config }

theorem run_concat (source : DeferredSource σ) (d : Dialect) (config : LiveConfig)
    (acts : List (LiveAct σ)) (a : LiveAct σ) :
    run source d config (acts ++ [a]) = (run source d config acts).act source d a := by
  rw [run, List.foldl_append]
  rfl

end LiveHub

/-! ### Turns -/

namespace LiveQueries

variable {l l' : LiveQueries} {id : LiveQueryId}

/-- Of the tasks only that of `id` is another one. It has the same receiver, if it has ended before it is not
going on, and if it is registered it was not asked to end just now. -/
structure Alters (l : LiveQueries) (id : LiveQueryId) (l' : LiveQueries) : Prop where
  issued : l'.issued = l.issued
  feed : l'.feed.issued = l.feed.issued
  others : ∀ j ≠ id, l'.tasks.get? j = l.tasks.get? j
  own : ∀ q', l'.tasks.get? id = some q' → ∃ q, l.tasks.get? id = some q ∧ q'.receiver = q.receiver ∧
    (q'.hasStopped = false → q.hasStopped = false)
  asked : ∀ q', l'.tasks.get? id = some q' → q'.abortRequested = true → l'.isActive id = true →
    ∃ q, l.tasks.get? id = some q ∧ q.abortRequested = true

/-- The registry is the same, and the task goes on if it is registered and was going on before. -/
structure Continues (l : LiveQueries) (id : LiveQueryId) (l' : LiveQueries) : Prop extends
    Alters l id l' where
  registry : l'.registry = l.registry
  alive : l.isActive id = true → ∀ q, l.tasks.get? id = some q → q.hasStopped = false →
    ∃ q', l'.tasks.get? id = some q' ∧ q'.hasStopped = false

theorem alters_feed (f : Feed) (h : f.issued = l.feed.issued) (registry : SortedMap LiveQueryId Registration)
    (id : LiveQueryId) : l.Alters id { l with feed := f, registry } :=
  ⟨rfl, h, fun _ _ => rfl, fun q hq => ⟨q, hq, rfl, fun hgoing => hgoing⟩,
    fun q hq hasked _ => ⟨q, hq, hasked⟩⟩

theorem continues_feed (f : Feed) (h : f.issued = l.feed.issued) (id : LiveQueryId) :
    l.Continues id { l with feed := f } :=
  ⟨alters_feed f h _ id, rfl, fun _ q hq halive => ⟨q, hq, halive⟩⟩

theorem alters_insert {q : LiveQuery} (hq : l.tasks.get? id = some q) (q' : LiveQuery) (f : Feed)
    (registry : SortedMap LiveQueryId Registration) (hreceiver : q'.receiver = q.receiver)
    (hfeed : f.issued = l.feed.issued) (hgoing : q'.hasStopped = false → q.hasStopped = false)
    (hasked : q'.abortRequested = true → registry.contains id = true → q.abortRequested = true) :
    l.Alters id { l with feed := f, registry, tasks := l.tasks.insert id q' } where
  issued := rfl
  feed := hfeed
  others j hj := SortedMap.get?_insert_of_ne _ _ hj
  own q'' hq'' := by
    rw [SortedMap.get?_insert_self] at hq''
    cases hq''
    exact ⟨q, hq, hreceiver, hgoing⟩
  asked q'' hq'' haborted hactive := by
    rw [SortedMap.get?_insert_self] at hq''
    cases hq''
    exact ⟨q, hq, hasked haborted hactive⟩

theorem continues_insert {q : LiveQuery} (hq : l.tasks.get? id = some q) (q' : LiveQuery) (f : Feed)
    (hreceiver : q'.receiver = q.receiver) (hfeed : f.issued = l.feed.issued)
    (hgoing : q'.hasStopped = false ↔ q.hasStopped = false)
    (hasked : q'.abortRequested = q.abortRequested) :
    l.Continues id { l with feed := f, tasks := l.tasks.insert id q' } where
  toAlters := alters_insert hq q' f l.registry hreceiver hfeed hgoing.mp fun h _ => hasked ▸ h
  registry := rfl
  alive _ p hp hbefore := by
    rw [hq] at hp
    cases hp
    exact ⟨q', SortedMap.get?_insert_self _ _ _, hgoing.mpr hbefore⟩

/-- A cancelled live query loses its entry, and its task may be asked to end. -/
theorem cancel_cases (l : LiveQueries) (id : LiveQueryId) :
    (l.cancel id).1 = l.isActive id ∧ l.Alters id (l.cancel id).2 ∧
      (l.cancel id).2.registry = l.registry.erase id := by
  have hgone : (l.registry.erase id).contains id ≠ true := by
    rw [SortedMap.contains, SortedMap.get?_erase_self]
    exact Bool.false_ne_true
  rw [cancel, isActive, SortedMap.contains]
  cases hentry : l.registry.get? id with
  | none => exact ⟨rfl, alters_feed l.feed rfl _ id, (SortedMap.erase_of_get?_eq_none hentry).symm⟩
  | some r =>
    dsimp only
    split
    · rw [requestAbort]
      cases hq : l.tasks.get? id with
      | none => exact ⟨rfl, alters_feed l.feed rfl _ id, rfl⟩
      | some q =>
        have halters := alters_insert hq q.requestAbort l.feed (l.registry.erase id) rfl rfl
          (fun hgoing => hgoing) fun _ hactive => absurd hactive hgone
        exact ⟨rfl, halters, rfl⟩
    · exact ⟨rfl, alters_feed l.feed rfl _ id, rfl⟩

/-- A task is aborted only after it was asked to end. -/
theorem abort_cases (source : DeferredSource σ) (l : LiveQueries) (id : LiveQueryId) (state : σ) :
    (l.abort source id state).1 = l ∨ ∃ q, l.tasks.get? id = some q ∧ q.abortRequested = true ∧
      (l.abort source id state).1
        = { l with feed := (q.stop l.feed).2, tasks := l.tasks.insert id (q.stop l.feed).1 } := by
  rw [abort]
  cases hq : l.tasks.get? id with
  | none => exact .inl rfl
  | some q =>
    dsimp only
    split
    case isTrue h => exact .inr ⟨q, rfl, (Bool.and_eq_true_iff.mp h).1, rfl⟩
    case isFalse => exact .inl rfl

/-! ### Entries -/

/-- What the registry is to hold of a live query. -/
def entryOf (query : CompiledQuery) (namespaceName : String) : String × List TableId :=
  (query.root, query.touched.toList.map fun table => ⟨namespaceName, table⟩)

/-- What the registry holds of a live query, besides how its task can be aborted. -/
def registered? (l : LiveQueries) (id : LiveQueryId) : Option (String × List TableId) :=
  (l.registry.get? id).map fun r => (r.root, r.tables)

theorem isActive_eq (l : LiveQueries) (id : LiveQueryId) : l.isActive id = (l.registered? id).isSome := by
  rw [registered?, Option.isSome_map]
  rfl

theorem tables?_eq (l : LiveQueries) (id : LiveQueryId) : l.tables? id = (l.registered? id).map (·.2) := by
  rw [registered?, Option.map_map]
  rfl

theorem registered?_arm (l : LiveQueries) (id j : LiveQueryId) :
    (l.arm id).registered? j = l.registered? j := by
  rw [registered?, registered?, arm]
  cases hentry : l.registry.get? id with
  | none => rfl
  | some r =>
    by_cases heq : j = id
    · subst heq
      rw [hentry, SortedMap.get?_insert_self]
      rfl
    · rw [SortedMap.get?_insert_of_ne _ _ heq]

theorem registered?_register_self (l : LiveQueries) (query : CompiledQuery) (namespaceName : String) :
    (l.register query namespaceName).2.2.registered? l.issued = some (entryOf query namespaceName) :=
  congrArg (Option.map _) (SortedMap.get?_insert_self _ _ _)

theorem registered?_register_of_ne (l : LiveQueries) (query : CompiledQuery) (namespaceName : String)
    {j : LiveQueryId} (h : j ≠ l.issued) :
    (l.register query namespaceName).2.2.registered? j = l.registered? j :=
  congrArg (Option.map _) (SortedMap.get?_insert_of_ne _ _ h)

theorem registered?_of_erase (h : l'.registry = l.registry.erase id) : l'.registered? id = none := by
  rw [registered?, h, SortedMap.get?_erase_self, Option.map_none]

theorem registered?_of_erase_of_ne (h : l'.registry = l.registry.erase id) {j : LiveQueryId} (hj : j ≠ id) :
    l'.registered? j = l.registered? j := by
  rw [registered?, h, SortedMap.get?_erase_of_ne _ hj, registered?]

theorem isActive_register_of_ne (l : LiveQueries) (query : CompiledQuery) (namespaceName : String)
    {j : LiveQueryId} (h : j ≠ l.issued) :
    (l.register query namespaceName).2.2.isActive j = l.isActive j := by
  rw [isActive_eq, registered?_register_of_ne l query namespaceName h, isActive_eq]

theorem isActive_arm (l : LiveQueries) (id j : LiveQueryId) : (l.arm id).isActive j = l.isActive j := by
  rw [isActive_eq, registered?_arm, isActive_eq]

end LiveQueries

theorem LiveQuery.Does.issued_eq {config : LiveConfig} {q q' : LiveQuery} {f f' : Feed}
    {happenings : List Happening} (h : q.Does config f happenings q' f') : f'.issued = f.issued := by
  cases h with
  | hear _ hreceive | discard _ hreceive =>
    obtain ⟨place, rfl⟩ := Feed.exists_seek_of_receive hreceive
    rfl
  | cleared | start | look | wake | deliver | stop => rfl

theorem LiveQuery.Does.abortRequested_eq {config : LiveConfig} {q q' : LiveQuery} {f f' : Feed}
    {happenings : List Happening} (h : q.Does config f happenings q' f') :
    q'.abortRequested = q.abortRequested := by
  cases h with
  | hear =>
    rw [LiveQuery.hear]
    split <;> rfl
  | start _ now outcome | look _ now outcome =>
    obtain ⟨stage, heq, -⟩ := LiveQuery.follow_cases config now _ q outcome
    rw [heq]
  | discard | cleared | wake | deliver | stop => rfl

theorem LiveQuery.Does.going {config : LiveConfig} {q q' : LiveQuery} {f f' : Feed}
    {happenings : List Happening} (h : q.Does config f happenings q' f') : q.hasStopped = false := by
  cases h with
  | hear hstage | discard hstage | cleared hstage | start hstage | look hstage | wake hstage
  | deliver hstage => rw [hasStopped, hstage]
  | stop hstage =>
    rcases hstage with hstage | ⟨u, hstage⟩ <;> rw [hasStopped, hstage]

namespace LiveHub

/-- What an act can do. -/
inductive Turn (w : LiveHub) : LiveHub → Prop
  | register (query : CompiledQuery) (namespaceName : String) :
    Turn w ({ w with
      live := (w.live.register query namespaceName).2.2
      underWay := w.underWay.insert w.live.issued (.spawn (w.live.register query namespaceName).2.1)
      }.note (.registered w.live.issued query namespaceName))
  | spawn {id : LiveQueryId} {q : LiveQuery} (h : w.underWay.get? id = some (.spawn q)) :
    Turn w { w with live := w.live.spawn id q, underWay := w.underWay.insert id .arm }
  | arm {id : LiveQueryId} (h : w.underWay.get? id = some .arm) :
    Turn w { w with live := w.live.arm id, underWay := w.underWay.erase id }
  | cancel {id : LiveQueryId} {live : LiveQueries} (h : w.live.Alters id live)
      (hregistry : live.registry = w.live.registry.erase id) :
    Turn w ({ w with live }.note (.cancelled id (w.live.isActive id)))
  | finish {id : LiveQueryId} {live : LiveQueries} (h : w.live.Alters id live)
      (hregistry : live.registry = w.live.registry.erase id) {q : LiveQuery}
      (hq : live.tasks.get? id = some q) (hstopped : q.hasStopped = true) (happenings : List Happening) :
    Turn w ({ w with live }.note (.worked id happenings true))
  | work {id : LiveQueryId} {live : LiveQueries} (h : w.live.Continues id live) {n : Note}
      (hn : n.IsQuiet) : Turn w ({ w with live }.note n)
  | still {id : LiveQueryId} {live : LiveQueries} (h : w.live.Continues id live) :
    Turn w { w with live }

variable {w w' : LiveHub}

/-! ### Tasks and receivers -/

/-- The task of a live query is to begin, or has begun and not ended. -/
def IsGoing (w : LiveHub) (id : LiveQueryId) : Prop :=
  (∃ q, w.underWay.get? id = some (.spawn q)) ∨
    ∃ q, w.live.tasks.get? id = some q ∧ q.hasStopped = false

/-- A live query has the number of its receiver, and what is registered is going on and was not asked to
end. -/
structure Sound (w : LiveHub) : Prop where
  issued : w.live.feed.issued = w.live.issued
  spawn : ∀ id q, w.underWay.get? id = some (.spawn q) → id < w.live.issued ∧ q.receiver = id ∧
    q.hasStopped = false ∧ q.abortRequested = false ∧ w.live.tasks.get? id = none
  task : ∀ id q, w.live.tasks.get? id = some q → id < w.live.issued ∧ q.receiver = id
  asked : ∀ id q, w.live.tasks.get? id = some q → q.abortRequested = true → w.live.isActive id = false
  going : ∀ id, w.live.isActive id = true → w.IsGoing id

theorem Sound.lt_issued (h : w.Sound) {id : LiveQueryId} (hactive : w.live.isActive id = true) :
    id < w.live.issued := by
  rcases h.going id hactive with ⟨q, hq⟩ | ⟨q, hq, -⟩
  · exact (h.spawn id q hq).1
  · exact (h.task id q hq).1

theorem Sound.register (h : w.Sound) (query : CompiledQuery) (namespaceName : String) :
    ({ w with
      live := (w.live.register query namespaceName).2.2
      underWay := w.underWay.insert w.live.issued (.spawn (w.live.register query namespaceName).2.1)
      } : LiveHub).Sound where
  issued := congrArg (· + 1) h.issued
  spawn id q hq := by
    by_cases hid : id = w.live.issued
    · subst hid
      rw [SortedMap.get?_insert_self] at hq
      cases hq
      refine ⟨Nat.lt_succ_self _, h.issued, rfl, rfl, ?_⟩
      rw [Option.eq_none_iff_forall_ne_some]
      exact fun q' hq' => Nat.lt_irrefl _ (h.task _ q' hq').1
    · rw [SortedMap.get?_insert_of_ne _ _ hid] at hq
      exact ⟨Nat.lt_succ_of_lt (h.spawn id q hq).1, (h.spawn id q hq).2⟩
  task id q hq := ⟨Nat.lt_succ_of_lt (h.task id q hq).1, (h.task id q hq).2⟩
  asked id q hq hasked := by
    have hid : id ≠ w.live.issued := Nat.ne_of_lt (h.task id q hq).1
    exact (w.live.isActive_register_of_ne query namespaceName hid).trans (h.asked id q hq hasked)
  going id hactive := by
    by_cases hid : id = w.live.issued
    · subst hid
      exact .inl ⟨_, SortedMap.get?_insert_self _ _ _⟩
    · have hbefore := (w.live.isActive_register_of_ne query namespaceName hid).symm.trans hactive
      rcases h.going id hbefore with ⟨q, hq⟩ | hq
      · exact .inl ⟨q, (SortedMap.get?_insert_of_ne _ _ hid).trans hq⟩
      · exact .inr hq

theorem Sound.begin (h : w.Sound) {id : LiveQueryId} {q : LiveQuery}
    (hq : w.underWay.get? id = some (.spawn q)) :
    ({ w with live := w.live.spawn id q, underWay := w.underWay.insert id .arm } : LiveHub).Sound where
  issued := h.issued
  spawn j q' hj := by
    by_cases heq : j = id
    · rw [heq, SortedMap.get?_insert_self] at hj
      cases hj
    · rw [SortedMap.get?_insert_of_ne _ _ heq] at hj
      rw [LiveQueries.spawn, SortedMap.get?_insert_of_ne _ _ heq]
      exact h.spawn j q' hj
  task j q' hj := by
    by_cases heq : j = id
    · subst heq
      rw [LiveQueries.spawn, SortedMap.get?_insert_self] at hj
      cases hj
      obtain ⟨hlt, hreceiver, -⟩ := h.spawn j q hq
      exact ⟨hlt, hreceiver⟩
    · rw [LiveQueries.spawn, SortedMap.get?_insert_of_ne _ _ heq] at hj
      exact h.task j q' hj
  asked j q' hj hasked := by
    by_cases heq : j = id
    · subst heq
      rw [LiveQueries.spawn, SortedMap.get?_insert_self] at hj
      cases hj
      obtain ⟨-, -, -, hfresh, -⟩ := h.spawn j q hq
      exact absurd (hfresh.symm.trans hasked) Bool.false_ne_true
    · rw [LiveQueries.spawn, SortedMap.get?_insert_of_ne _ _ heq] at hj
      exact h.asked j q' hj hasked
  going j hactive := by
    by_cases heq : j = id
    · subst heq
      exact .inr ⟨q, SortedMap.get?_insert_self _ _ _, (h.spawn j q hq).2.2.1⟩
    · rcases h.going j hactive with ⟨q', hj⟩ | ⟨q', hj, hgoing⟩
      · exact .inl ⟨q', (SortedMap.get?_insert_of_ne _ _ heq).trans hj⟩
      · exact .inr ⟨q', (SortedMap.get?_insert_of_ne _ _ heq).trans hj, hgoing⟩

theorem Sound.arm (h : w.Sound) {id : LiveQueryId} (harm : w.underWay.get? id = some .arm) :
    ({ w with live := w.live.arm id, underWay := w.underWay.erase id } : LiveHub).Sound := by
  obtain ⟨htasks, hissued, hfeed⟩ := w.live.arm_eq id
  have hunderWay : ∀ j q, (w.underWay.erase id).get? j = some (.spawn q) ↔
      w.underWay.get? j = some (.spawn q) := by
    intro j q
    by_cases heq : j = id
    · rw [heq, SortedMap.get?_erase_self, harm]
      simp
    · rw [SortedMap.get?_erase_of_ne _ heq]
  constructor
  · rw [hfeed, hissued]
    exact h.issued
  · intro j q hj
    rw [hissued, htasks]
    exact h.spawn j q ((hunderWay j q).mp hj)
  · intro j q hj
    rw [htasks] at hj
    rw [hissued]
    exact h.task j q hj
  · intro j q hj hasked
    rw [htasks] at hj
    rw [w.live.isActive_arm id j]
    exact h.asked j q hj hasked
  · intro j hactive
    rw [w.live.isActive_arm id j] at hactive
    rcases h.going j hactive with ⟨q, hj⟩ | ⟨q, hj, hgoing⟩
    · exact .inl ⟨q, (hunderWay j q).mpr hj⟩
    · exact .inr ⟨q, by rwa [htasks], hgoing⟩

/-- What happens to one task leaves the invariant, if its entry is gone or it still goes on. -/
theorem Sound.alters (h : w.Sound) {id : LiveQueryId} {live : LiveQueries} (halters : w.live.Alters id live)
    (hothers : ∀ j, live.isActive j = true → w.live.isActive j = true)
    (hown : live.isActive id = true → ∀ q, w.live.tasks.get? id = some q → q.hasStopped = false →
      ∃ q', live.tasks.get? id = some q' ∧ q'.hasStopped = false) :
    ({ w with live } : LiveHub).Sound where
  issued := by
    rw [halters.feed, halters.issued]
    exact h.issued
  spawn j q hj := by
    obtain ⟨hlt, hreceiver, hgoing, hfresh, hnone⟩ := h.spawn j q hj
    refine ⟨halters.issued.symm ▸ hlt, hreceiver, hgoing, hfresh, ?_⟩
    by_cases heq : j = id
    · subst heq
      rw [Option.eq_none_iff_forall_ne_some]
      intro q' hq'
      obtain ⟨q, hq, -⟩ := halters.own q' hq'
      exact Option.some_ne_none q (hq.symm.trans hnone)
    · rw [halters.others j heq, hnone]
  task j q' hj := by
    rw [halters.issued]
    by_cases heq : j = id
    · subst heq
      obtain ⟨q, hq, hreceiver, -⟩ := halters.own q' hj
      rw [hreceiver]
      exact h.task j q hq
    · exact h.task j q' ((halters.others j heq).symm.trans hj)
  asked j q' hj hasked := by
    rw [Bool.eq_false_iff]
    intro hactive
    obtain ⟨q, hq, hbefore⟩ : ∃ q, w.live.tasks.get? j = some q ∧ q.abortRequested = true := by
      by_cases heq : j = id
      · subst heq
        exact halters.asked q' hj hasked hactive
      · exact ⟨q', (halters.others j heq).symm.trans hj, hasked⟩
    exact Bool.false_ne_true ((h.asked j q hq hbefore).symm.trans (hothers j hactive))
  going j hactive := by
    rcases h.going j (hothers j hactive) with hq | ⟨q, hq, hgoing⟩
    · exact .inl hq
    · by_cases heq : j = id
      · subst heq
        exact .inr (hown hactive q hq hgoing)
      · exact .inr ⟨q, (halters.others j heq).trans hq, hgoing⟩

theorem Sound.continues (h : w.Sound) {id : LiveQueryId} {live : LiveQueries}
    (hlive : w.live.Continues id live) : ({ w with live } : LiveHub).Sound := by
  have hsame : ∀ j, live.isActive j = true → w.live.isActive j = true := fun j hactive => by
    rwa [LiveQueries.isActive, hlive.registry] at hactive
  exact h.alters hlive.toAlters hsame fun hactive => hlive.alive (hsame id hactive)

theorem Sound.erases (h : w.Sound) {id : LiveQueryId} {live : LiveQueries}
    (halters : w.live.Alters id live) (hregistry : live.registry = w.live.registry.erase id) :
    ({ w with live } : LiveHub).Sound := by
  have herased : ∀ j, live.isActive j = true → j ≠ id ∧ w.live.isActive j = true := by
    intro j hactive
    rw [LiveQueries.isActive_eq] at hactive ⊢
    by_cases heq : j = id
    · rw [heq, LiveQueries.registered?_of_erase hregistry] at hactive
      cases hactive
    · rw [LiveQueries.registered?_of_erase_of_ne hregistry heq] at hactive
      exact ⟨heq, hactive⟩
  refine h.alters halters (fun j hactive => (herased j hactive).2) fun hactive => ?_
  exact absurd rfl (herased id hactive).1

theorem Sound.turn (h : w.Sound) (hturn : w.Turn w') : w'.Sound := by
  have hnote : ∀ {w : LiveHub}, w.Sound → ∀ n, (w.note n).Sound :=
    fun h _ => ⟨h.issued, h.spawn, h.task, h.asked, h.going⟩
  cases hturn with
  | register query namespaceName => exact hnote (h.register query namespaceName) _
  | spawn hq => exact h.begin hq
  | arm harm => exact h.arm harm
  | work hlive => exact hnote (h.continues hlive) _
  | still hlive => exact h.continues hlive
  | cancel halters hregistry => exact hnote (h.erases halters hregistry) _
  | finish halters hregistry => exact hnote (h.erases halters hregistry) _

theorem sound_start (config : LiveConfig) : ({ live := .ofConfig config } : LiveHub).Sound where
  issued := rfl
  spawn _ _ hq := by cases hq
  task _ _ hq := by cases hq
  asked _ _ hq := by cases hq
  going _ hactive := by cases hactive

/-! ### What acts do -/

theorem Turn.same (w : LiveHub) : w.Turn w := .still (LiveQueries.continues_feed w.live.feed rfl 0)

theorem turn_act (source : DeferredSource σ) (d : Dialect) (hsound : w.Sound) (a : LiveAct σ) :
    w.Turn (w.act source d a) := by
  cases a with
  | register query namespaceName => exact .register query namespaceName
  | proceed id =>
    rw [act]
    split
    case h_1 => exact .same w
    case h_2 h => exact .spawn h
    case h_3 h => exact .arm h
  | cancel id =>
    obtain ⟨hanswer, halters, hregistry⟩ := w.live.cancel_cases id
    have hturn := Turn.cancel halters hregistry
    rw [← hanswer] at hturn
    exact hturn
  | abort id state =>
    rw [act]
    rcases w.live.abort_cases source id state with heq | ⟨q, hq, hasked, heq⟩
    · rw [heq]
      exact .same w
    · -- what was asked to end is not registered any more, so nothing is left behind
      have hgone := hsound.asked id q hq hasked
      rw [heq]
      refine .still ⟨?_, rfl, fun hactive => absurd (hgone.symm.trans hactive) Bool.false_ne_true⟩
      exact LiveQueries.alters_insert hq (q.stop w.live.feed).1 (q.stop w.live.feed).2 w.live.registry rfl rfl
        (fun hgoing => (Bool.false_ne_true (Eq.symm hgoing)).elim) fun hasked _ => hasked
  | leave id =>
    rw [act, LiveQueries.leave]
    cases hq : w.live.tasks.get? id with
    | none => exact .same w
    | some q => exact .still (LiveQueries.continues_insert hq q.leave w.live.feed rfl rfl Iff.rfl rfl)
  | take id =>
    rw [act]
    cases htake : w.live.take? id with
    | none => exact .same w
    | some p =>
      obtain ⟨q, rest, hq, -, hlive⟩ := LiveQueries.take?_eq_some htake
      have hgoes := LiveQueries.continues_insert hq { q with updates := rest } w.live.feed rfl rfl
        Iff.rfl rfl
      exact .work (n := .took id _) (hlive ▸ hgoes) trivial
  | takeAll id =>
    rw [act, LiveQueries.takeAll]
    cases hq : w.live.tasks.get? id with
    | none => exact .work (n := .took id []) (LiveQueries.continues_feed w.live.feed rfl id) trivial
    | some q =>
      have hgoes := LiveQueries.continues_insert hq q.takeAll.2 w.live.feed rfl rfl Iff.rfl rfl
      exact .work (n := .took id _) hgoes trivial
  | step id first now state =>
    rw [act]
    cases hstep : w.live.step? source d first now id state with
    | none => exact .same w
    | some p =>
      obtain ⟨q, q', f, hq, hdoes, hlive⟩ := LiveQueries.step?_eq_some hstep
      have hdoes := LiveQuery.does_of_step? hdoes
      have hreceiver := hdoes.sameAs.receiver
      have hstopped : p.1.hasStopped id = q'.hasStopped := by
        rw [hlive, LiveQueries.hasStopped, LiveQueries.update, SortedMap.get?_insert_self]
      dsimp only
      rw [hstopped, hlive, LiveQueries.update]
      cases hend : q'.hasStopped with
      | true =>
        have halters := LiveQueries.alters_insert hq q' f (w.live.registry.erase id) hreceiver
          hdoes.issued_eq (fun _ => hdoes.going) fun hasked _ => hdoes.abortRequested_eq ▸ hasked
        exact .finish halters rfl (SortedMap.get?_insert_self _ _ _) hend _
      | false =>
        exact .work (LiveQueries.continues_insert hq q' f hreceiver hdoes.issued_eq
          (iff_of_true hend hdoes.going) hdoes.abortRequested_eq) rfl
  | publish e => exact .still (LiveQueries.continues_feed (w.live.feed.publish e) rfl 0)
  | close => exact .still (LiveQueries.continues_feed w.live.feed.close rfl 0)

theorem sound_run (source : DeferredSource σ) (d : Dialect) (config : LiveConfig)
    (acts : List (LiveAct σ)) : (run source d config acts).Sound := by
  induction acts using List.reverseRecOn with
  | nil => exact sound_start config
  | append_singleton acts a ih =>
    rw [run_concat]
    exact ih.turn (turn_act source d ih a)

/-- What holds of a new feed and is kept by every turn holds after any acts. -/
theorem run_of_turn (source : DeferredSource σ) (d : Dialect) (config : LiveConfig)
    {holds : LiveHub → Prop} (hstart : holds { live := .ofConfig config })
    (hturn : ∀ {w w' : LiveHub}, w.Sound → holds w → w.Turn w' → holds w') (acts : List (LiveAct σ)) :
    holds (run source d config acts) := by
  induction acts using List.reverseRecOn with
  | nil => exact hstart
  | append_singleton acts a ih =>
    have hsound := sound_run source d config acts
    rw [run_concat]
    exact hturn hsound ih (turn_act source d hsound a)

end LiveHub

end NestedRows
