import NestedRows.Proofs.Live.Hub
/-!
# One live query at a time

What is done to one live query is not seen by the others. A hub without a live query (`LiveHub.without`) has
neither its entry, its task, its receiver nor its notes. Acts on the live query leave the rest of the hub as
it is (`LiveHub.without_act_of_subject`), and all other acts do the same whether the live query is there or
not (`LiveHub.without_act`).
-/

namespace NestedRows

variable {σ : Type} {source : DeferredSource σ} {d : Dialect} {first : Glance} {now : Nat} {state : σ}

/-! ### Another receiver -/

def Reception.map (g : Feed → Feed) : Reception → Reception
  | .notice n f => .notice n (g f)
  | .empty => .empty
  | .closed => .closed

theorem Feed.receive_unsubscribe (f : Feed) {r other : ReceiverId} (h : r ≠ other) :
    (f.unsubscribe other).receive r = (f.receive r).map (·.unsubscribe other) := by
  have hinsert : ∀ place,
      (f.receivers.erase other).insert r place = (f.receivers.insert r place).erase other :=
    fun place => (SortedMap.erase_insert_of_ne f.receivers place h).symm
  have hforgotten : (f.unsubscribe other).forgotten = f.forgotten := rfl
  rw [receive, receive, hforgotten]
  simp only [unsubscribe, SortedMap.get?_erase_of_ne _ h, hinsert]
  cases f.receivers.get? r with
  | none => rfl
  | some seen =>
    dsimp only
    split
    case isTrue => rfl
    case isFalse =>
      cases f.kept[seen - f.forgotten]? with
      | some e => rfl
      | none => exact (apply_ite (Reception.map _) (f.isOpen = true) .empty .closed).symm

namespace LiveQuery

variable {config : LiveConfig} {q q' : LiveQuery} {f f' : Feed} {other : ReceiverId}

theorem stop_unsubscribe (q : LiveQuery) (f : Feed) (other : ReceiverId) :
    q.stop (f.unsubscribe other) = ((q.stop f).1, (q.stop f).2.unsubscribe other) :=
  congrArg (fun receivers => (_, { f with receivers })) (SortedMap.erase_comm _ _ _)

theorem abort_unsubscribe (source : DeferredSource σ) (q : LiveQuery) (f : Feed) (other : ReceiverId)
    (state : σ) :
    q.abort source (f.unsubscribe other) state
      = (((q.abort source f state).1.1, (q.abort source f state).1.2.unsubscribe other),
        (q.abort source f state).2) := by
  rw [abort, abort, stop_unsubscribe]

/-- A step depends on no other receiver and leaves it as it is. -/
theorem step?_unsubscribe (h : q.receiver ≠ other) :
    q.step? config source d first now (f.unsubscribe other) state
      = (q.step? config source d first now f state).map
        fun p => ((p.1.1, p.1.2.unsubscribe other), p.2) := by
  have hreceive := f.receive_unsubscribe h
  rw [step?, step?]
  cases q.stage with
  | listening =>
    dsimp only
    rw [hreceive, stop_unsubscribe]
    split
    · rfl
    · cases f.receive q.receiver with
      | empty =>
        simp only [Reception.map]
        split <;> rfl
      | notice | closed => rfl
  | discarding =>
    dsimp only
    rw [hreceive]
    cases f.receive q.receiver <;> rfl
  | starting failures => rfl
  | fetching failures flight =>
    dsimp only
    split <;> rfl
  | resting failures delay due =>
    dsimp only
    split <;> rfl
  | delivering u =>
    dsimp only
    rw [stop_unsubscribe]
    split
    · split <;> rfl
    · rfl
  | stopped => rfl

theorem doings_unsubscribe (h : q.receiver ≠ other) :
    q.doings source d first (f.unsubscribe other) state = q.doings source d first f state := by
  have hreceive := f.receive_unsubscribe h
  have hreception : ∀ (name : Notice → Happening) (r : Reception),
      Happening.ofReception name (r.map (·.unsubscribe other)) = Happening.ofReception name r := by
    intro name r
    cases r <;> rfl
  rw [doings, doings, hreceive]
  simp only [hreception]

/-- A step moves or removes the live query's own receiver only. -/
theorem Does.unsubscribe_eq {happenings : List Happening} (h : q.Does config f happenings q' f') :
    f'.unsubscribe q.receiver = f.unsubscribe q.receiver := by
  cases h with
  | hear _ hreceive | discard _ hreceive =>
    obtain ⟨place, rfl⟩ := Feed.exists_seek_of_receive hreceive
    exact congrArg (fun receivers => { f with receivers }) (SortedMap.erase_insert_self _ _ _)
  | stop => exact congrArg (fun receivers => { f with receivers }) (SortedMap.erase_erase_self _ _)
  | cleared | start | look | wake | deliver => rfl

end LiveQuery

/-! ### Another live query -/

namespace LiveQueries

/-- The live queries without one of them. -/
def without (l : LiveQueries) (id : LiveQueryId) : LiveQueries :=
  { l with
    feed := l.feed.unsubscribe id
    registry := l.registry.erase id
    tasks := l.tasks.erase id }

variable {l l' : LiveQueries} {id j : LiveQueryId}

theorem without_without (l : LiveQueries) (id : LiveQueryId) : (l.without id).without id = l.without id := by
  rw [without, without, Feed.unsubscribe, Feed.unsubscribe]
  simp only [SortedMap.erase_erase_self]

theorem without_register (l : LiveQueries) (id : LiveQueryId) (query : CompiledQuery) (namespaceName : String) :
    ((l.without id).register query namespaceName).2.2.without id
      = (l.register query namespaceName).2.2.without id := by
  rw [register, register, Feed.subscribe, Feed.subscribe]
  simp only [without, Feed.unsubscribe, SortedMap.erase_insert_erase, SortedMap.erase_erase_self]

/-- Acts on one task, its entry and its receiver are not seen by the others. -/
theorem without_congr (hconfig : l'.config = l.config) (hissued : l'.issued = l.issued)
    (hfeed : l'.feed.unsubscribe id = l.feed.unsubscribe id)
    (hregistry : l'.registry.erase id = l.registry.erase id) (htasks : l'.tasks.erase id = l.tasks.erase id) :
    l'.without id = l.without id := by
  rw [without, without, hconfig, hissued, hfeed, hregistry, htasks]

theorem get?_tasks_without (l : LiveQueries) (h : j ≠ id) :
    (l.without id).tasks.get? j = l.tasks.get? j := SortedMap.get?_erase_of_ne _ h

theorem get?_registry_without (l : LiveQueries) (h : j ≠ id) :
    (l.without id).registry.get? j = l.registry.get? j := SortedMap.get?_erase_of_ne _ h

theorem spawn_without (l : LiveQueries) (h : j ≠ id) (q : LiveQuery) :
    (l.without id).spawn j q = (l.spawn j q).without id := by
  rw [spawn, spawn, without, without, SortedMap.erase_insert_of_ne _ _ h]

theorem arm_without (l : LiveQueries) (h : j ≠ id) : (l.without id).arm j = (l.arm j).without id := by
  rw [arm, arm, get?_registry_without l h]
  cases l.registry.get? j with
  | none => rfl
  | some r =>
    dsimp only
    rw [without, without, SortedMap.erase_insert_of_ne _ _ h]

theorem update_without (l : LiveQueries) (h : j ≠ id) (q : LiveQuery) (f : Feed) :
    (l.without id).update j q (f.unsubscribe id) = (l.update j q f).without id := by
  rw [update, update, without, without, SortedMap.erase_insert_of_ne _ _ h]
  dsimp only
  split
  · rw [SortedMap.erase_comm]
  · rfl

theorem step?_without (h : j ≠ id) (hreceiver : ∀ q, l.tasks.get? j = some q → q.receiver ≠ id) :
    (l.without id).step? source d first now j state
      = (l.step? source d first now j state).map fun p => (p.1.without id, p.2) := by
  rw [step?, step?, get?_tasks_without l h]
  cases hq : l.tasks.get? j with
  | none => rfl
  | some q =>
    have hfeed : (l.without id).feed = l.feed.unsubscribe id := rfl
    simp only [Option.bind_eq_bind, Option.bind_some, hfeed]
    rw [LiveQuery.step?_unsubscribe (hreceiver q hq)]
    change Option.bind (Option.map _ (q.step? l.config source d first now l.feed state)) _ = _
    cases q.step? l.config source d first now l.feed state with
    | none => rfl
    | some p => exact congrArg (fun l => some (l, p.2)) (update_without l h p.1.1 p.1.2)

theorem doings_without (h : j ≠ id) (hreceiver : ∀ q, l.tasks.get? j = some q → q.receiver ≠ id) :
    (l.without id).doings source d first j state = l.doings source d first j state := by
  rw [doings, doings, get?_tasks_without l h]
  cases hq : l.tasks.get? j with
  | none => rfl
  | some q => exact LiveQuery.doings_unsubscribe (hreceiver q hq)

theorem hasStopped_without (l : LiveQueries) (h : j ≠ id) :
    (l.without id).hasStopped j = l.hasStopped j := by
  rw [hasStopped, hasStopped, get?_tasks_without l h]

theorem leave_without (l : LiveQueries) (h : j ≠ id) : (l.without id).leave j = (l.leave j).without id := by
  rw [leave, leave, get?_tasks_without l h]
  cases l.tasks.get? j with
  | none => rfl
  | some q => exact spawn_without l h q.leave

theorem take?_without (l : LiveQueries) (h : j ≠ id) :
    (l.without id).take? j = (l.take? j).map fun p => (p.1, p.2.without id) := by
  rw [take?, take?, get?_tasks_without l h]
  cases l.tasks.get? j with
  | none => rfl
  | some q =>
    simp only [Option.bind_eq_bind, Option.bind_some]
    cases q.take? with
    | none => rfl
    | some p => exact congrArg (fun l => some (p.1, l)) (spawn_without l h p.2)

theorem takeAll_without (l : LiveQueries) (h : j ≠ id) :
    (l.without id).takeAll j = ((l.takeAll j).1, (l.takeAll j).2.without id) := by
  rw [takeAll, takeAll, get?_tasks_without l h]
  cases l.tasks.get? j with
  | none => rfl
  | some q => exact congrArg (fun l => (q.takeAll.1, l)) (spawn_without l h q.takeAll.2)

theorem requestAbort_without (l : LiveQueries) (h : j ≠ id) :
    (l.without id).requestAbort j = (l.requestAbort j).without id := by
  rw [requestAbort, requestAbort, get?_tasks_without l h]
  cases l.tasks.get? j with
  | none => rfl
  | some q => exact spawn_without l h q.requestAbort

theorem cancel_without (l : LiveQueries) (h : j ≠ id) :
    (l.without id).cancel j = ((l.cancel j).1, (l.cancel j).2.without id) := by
  rw [cancel, cancel, get?_registry_without l h]
  cases l.registry.get? j with
  | none => rfl
  | some r =>
    have herase : ({ l.without id with registry := (l.without id).registry.erase j } : LiveQueries)
        = ({ l with registry := l.registry.erase j } : LiveQueries).without id := by
      rw [without, without]
      dsimp only
      rw [SortedMap.erase_comm]
    dsimp only
    rw [herase, requestAbort_without _ h]
    split <;> rfl

theorem abort_without (source : DeferredSource σ) (l : LiveQueries) (h : j ≠ id) (state : σ) :
    (l.without id).abort source j state
      = ((l.abort source j state).1.without id, (l.abort source j state).2) := by
  rw [abort, abort, get?_tasks_without l h]
  cases l.tasks.get? j with
  | none => rfl
  | some q =>
    dsimp only
    split
    · have hfeed : (l.without id).feed = l.feed.unsubscribe id := rfl
      rw [hfeed, LiveQuery.abort_unsubscribe]
      exact congrArg (fun l => (l, _))
        (spawn_without { l with feed := (q.abort source l.feed state).1.2 } h _)
    · rfl

/-! ### The live query itself -/

theorem without_spawn_self (l : LiveQueries) (id : LiveQueryId) (q : LiveQuery) :
    (l.spawn id q).without id = l.without id :=
  without_congr rfl rfl rfl rfl (SortedMap.erase_insert_self _ _ _)

theorem without_arm_self (l : LiveQueries) (id : LiveQueryId) : (l.arm id).without id = l.without id := by
  rw [arm]
  split
  · rfl
  · exact without_congr rfl rfl rfl (SortedMap.erase_insert_self _ _ _) rfl

theorem without_update_self (l : LiveQueries) (id : LiveQueryId) (q : LiveQuery) {f : Feed}
    (hfeed : f.unsubscribe id = l.feed.unsubscribe id) : (l.update id q f).without id = l.without id := by
  refine without_congr rfl rfl hfeed ?_ (SortedMap.erase_insert_self _ _ _)
  rw [update]
  dsimp only
  split
  · exact SortedMap.erase_erase_self _ _
  · rfl

theorem without_step?_self {l' : LiveQueries} {state' : σ}
    (hreceiver : ∀ q, l.tasks.get? id = some q → q.receiver = id)
    (h : l.step? source d first now id state = some (l', state')) : l'.without id = l.without id := by
  obtain ⟨q, q', f, hq, hstep, rfl⟩ := step?_eq_some h
  have hfeed := (LiveQuery.does_of_step? hstep).unsubscribe_eq
  rw [hreceiver q hq] at hfeed
  exact without_update_self l id q' hfeed

theorem without_leave_self (l : LiveQueries) (id : LiveQueryId) :
    (l.leave id).without id = l.without id := by
  rw [leave]
  split
  · rfl
  · exact without_spawn_self l id _

theorem without_take?_self {l' : LiveQueries} {u : Update} (h : l.take? id = some (u, l')) :
    l'.without id = l.without id := by
  obtain ⟨q, rest, -, -, rfl⟩ := take?_eq_some h
  exact without_spawn_self l id _

theorem without_takeAll_self (l : LiveQueries) (id : LiveQueryId) :
    (l.takeAll id).2.without id = l.without id := by
  rw [takeAll]
  split
  · rfl
  · exact without_spawn_self l id _

theorem without_requestAbort_self (l : LiveQueries) (id : LiveQueryId) :
    (l.requestAbort id).without id = l.without id := by
  rw [requestAbort]
  split
  · rfl
  · exact without_spawn_self l id _

theorem without_cancel_self (l : LiveQueries) (id : LiveQueryId) :
    (l.cancel id).2.without id = l.without id := by
  have herased : ({ l with registry := l.registry.erase id } : LiveQueries).without id = l.without id :=
    without_congr rfl rfl rfl (SortedMap.erase_erase_self _ _) rfl
  rw [cancel]
  cases l.registry.get? id with
  | none => rfl
  | some r =>
    dsimp only
    split
    · exact (without_requestAbort_self _ id).trans herased
    · exact herased

theorem without_abort_self (source : DeferredSource σ)
    (hreceiver : ∀ q, l.tasks.get? id = some q → q.receiver = id) (state : σ) :
    (l.abort source id state).1.without id = l.without id := by
  rcases l.abort_cases source id state with heq | ⟨q, hq, -, heq⟩
  · rw [heq]
  · rw [heq]
    refine without_congr rfl rfl ?_ rfl (SortedMap.erase_insert_self _ _ _)
    rw [LiveQuery.stop, hreceiver q hq]
    exact congrArg (fun receivers => { l.feed with receivers }) (SortedMap.erase_erase_self _ _)

end LiveQueries

/-! ### Hubs -/

namespace LiveHub

/-- The hub without a live query. -/
def without (w : LiveHub) (id : LiveQueryId) : LiveHub where
  live := w.live.without id
  underWay := w.underWay.erase id
  notes := w.notes.filter fun n => n.subject != id

variable {w : LiveHub} {id j : LiveQueryId}

theorem without_without (w : LiveHub) (id : LiveQueryId) : (w.without id).without id = w.without id := by
  rw [without, without, LiveQueries.without_without]
  simp only [SortedMap.erase_erase_self, List.filter_filter, Bool.and_self]

theorem without_note_self {n : Note} (hn : n.subject = id) (w : LiveHub) :
    (w.note n).without id = w.without id := by
  rw [without, note, List.filter_append, List.filter_cons_of_neg (by simp [hn])]
  exact congrArg (LiveHub.mk _ _) (List.append_nil _)

theorem without_note (w : LiveHub) (live : LiveQueries) (n : Note) (hn : n.subject ≠ id) :
    ({ w with live }.note n).without id = { w.without id with live := live.without id }.note n := by
  rw [without, note, List.filter_append, List.filter_cons_of_pos (by simp [hn])]
  rfl

/-- Acts on a live query are not seen by the others. -/
theorem without_act_of_subject (source : DeferredSource σ) (d : Dialect) (h : w.Sound) {a : LiveAct σ}
    (ha : a.subject? = some id) : (w.act source d a).without id = w.without id := by
  have hlive : ∀ live : LiveQueries, live.without id = w.live.without id →
      ({ w with live } : LiveHub).without id = w.without id := fun live hwithout => by
    rw [without, without, hwithout]
  have hreceiver : ∀ q, w.live.tasks.get? id = some q → q.receiver = id := fun q hq => (h.task id q hq).2
  cases a with
  | register | publish | close => cases ha
  | proceed =>
    cases ha
    rw [act]
    split
    · rfl
    · rw [without, without, LiveQueries.without_spawn_self, SortedMap.erase_insert_self]
    · rw [without, without, LiveQueries.without_arm_self, SortedMap.erase_erase_self]
  | cancel =>
    cases ha
    exact (without_note_self rfl _).trans (hlive _ (w.live.without_cancel_self id))
  | abort _ state =>
    cases ha
    exact hlive _ (LiveQueries.without_abort_self source hreceiver state)
  | leave =>
    cases ha
    exact hlive _ (w.live.without_leave_self id)
  | take =>
    cases ha
    rw [act]
    split
    case h_1 => rfl
    case h_2 u live htake =>
      exact (without_note_self rfl _).trans (hlive _ (LiveQueries.without_take?_self htake))
  | takeAll =>
    cases ha
    exact (without_note_self rfl _).trans (hlive _ (w.live.without_takeAll_self id))
  | step _ first now state =>
    cases ha
    rw [act]
    split
    case h_1 => rfl
    case h_2 live state' hstep =>
      exact (without_note_self rfl _).trans (hlive _ (LiveQueries.without_step?_self hreceiver hstep))

/-- Acts on another live query do the same whether the live query is there or not. -/
theorem act_without (source : DeferredSource σ) (d : Dialect) (h : w.Sound) {a : LiveAct σ}
    (ha : a.subject? = some j) (hj : j ≠ id) :
    (w.without id).act source d a = (w.act source d a).without id := by
  have hreceiver : ∀ q, w.live.tasks.get? j = some q → q.receiver ≠ id := by
    intro q hq
    rwa [(h.task j q hq).2]
  have hlive : (w.without id).live = w.live.without id := rfl
  have hunderWay : (w.without id).underWay.get? j = w.underWay.get? j := SortedMap.get?_erase_of_ne _ hj
  cases a with
  | register | publish | close => cases ha
  | proceed =>
    cases ha
    rw [act, act, hunderWay]
    cases w.underWay.get? j with
    | none => rfl
    | some remainder =>
      cases remainder with
      | spawn q =>
        dsimp only
        rw [hlive, LiveQueries.spawn_without _ hj, without, without, SortedMap.erase_insert_of_ne _ _ hj]
      | arm =>
        dsimp only
        rw [hlive, LiveQueries.arm_without _ hj, without, without, SortedMap.erase_comm]
  | cancel =>
    cases ha
    rw [act, hlive, LiveQueries.cancel_without _ hj]
    exact (without_note w (w.live.cancel j).2 (.cancelled j _) hj).symm
  | abort _ state =>
    cases ha
    rw [act, hlive, LiveQueries.abort_without source _ hj]
    rfl
  | leave =>
    cases ha
    rw [act, hlive, LiveQueries.leave_without _ hj]
    rfl
  | take =>
    cases ha
    rw [act, act, hlive, LiveQueries.take?_without _ hj]
    cases w.live.take? j with
    | none => rfl
    | some p => exact (without_note w p.2 (.took j [p.1]) hj).symm
  | takeAll =>
    cases ha
    rw [act, hlive, LiveQueries.takeAll_without _ hj]
    exact (without_note w (w.live.takeAll j).2 (.took j _) hj).symm
  | step _ first now state =>
    cases ha
    rw [act, act, hlive, LiveQueries.step?_without hj hreceiver, LiveQueries.doings_without hj hreceiver]
    cases w.live.step? source d first now j state with
    | none => rfl
    | some p =>
      dsimp only [Option.map_some]
      rw [LiveQueries.hasStopped_without _ hj]
      exact (without_note w p.1 (.worked j _ _) hj).symm

/-- The next live query may be the one that is left out. -/
theorem without_register (source : DeferredSource σ) (d : Dialect) (w : LiveHub) (id : LiveQueryId)
    (query : CompiledQuery) (namespaceName : String) :
    ((w.without id).act source d (.register query namespaceName)).without id
      = (w.act source d (.register query namespaceName)).without id := by
  have hregistered := w.live.without_register id query namespaceName
  have hbegun := w.underWay.erase_insert_erase id w.live.issued
    (.spawn (w.live.register query namespaceName).2.1)
  have hnotes : ∀ n : Note, ((w.without id).notes ++ [n]).filter (fun n => n.subject != id)
      = (w.notes ++ [n]).filter fun n => n.subject != id := by
    intro n
    rw [List.filter_append, List.filter_append, without, List.filter_filter]
    simp only [Bool.and_self]
  exact congrArg₂ (fun parts notes => LiveHub.mk parts.1 parts.2 notes)
    (congrArg₂ Prod.mk hregistered hbegun) (hnotes _)

/-- All acts that are not on the live query do the same whether it is there or not. -/
theorem without_act (source : DeferredSource σ) (d : Dialect) (h : w.Sound) {a : LiveAct σ}
    (ha : a.subject? ≠ some id) :
    ((w.without id).act source d a).without id = (w.act source d a).without id := by
  cases hsubject : a.subject? with
  | some j =>
    have hj : j ≠ id := fun heq => ha (hsubject.trans (congrArg some heq))
    rw [act_without source d h hsubject hj, without_without]
  | none =>
    cases a with
    | register query namespaceName => exact without_register source d w id query namespaceName
    | publish e => exact without_without ({ w with live := (w.live.publish e).2 } : LiveHub) id
    | close =>
      exact without_without ({ w with live := { w.live with feed := w.live.feed.close } } : LiveHub) id
    | proceed | cancel | abort | leave | take | takeAll | step => cases hsubject

/-- What a run leaves to the others does not depend on the acts on one live query. -/
theorem without_run (source : DeferredSource σ) (d : Dialect) (config : LiveConfig) (id : LiveQueryId)
    (acts : List (LiveAct σ)) :
    (run source d config acts).without id
      = (run source d config (LiveAct.apartFrom id acts)).without id := by
  induction acts using List.reverseRecOn with
  | nil => rfl
  | append_singleton acts a ih =>
    rw [LiveAct.apartFrom] at ih ⊢
    rw [run_concat, List.filter_append]
    by_cases ha : a.subject? = some id
    · rw [without_act_of_subject source d (sound_run source d config acts) ha,
        List.filter_cons_of_neg (by simp [ha]), List.filter_nil, List.append_nil, ih]
    · rw [List.filter_cons_of_pos (by simp [ha]), List.filter_nil, run_concat,
        ← without_act source d (sound_run source d config acts) ha,
        ← without_act source d (sound_run source d config _) ha, ih]

theorem notesOf_without (w : LiveHub) (h : j ≠ id) : (w.without id).notesOf j = w.notesOf j := by
  rw [notesOf, notesOf, without, List.filter_filter]
  refine List.filter_congr fun n _ => ?_
  by_cases hn : n.subject = j
  · simp [hn, h]
  · simp [hn]

end LiveHub

end NestedRows
