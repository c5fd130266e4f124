import NestedRows.Live.Registry
import NestedRows.Proofs.Live.Feed
/-!
# Runs of a live query

A live query takes its steps while events are published, other receivers act on the feed, the subscriber
takes updates or leaves, and the query may be asked to end and be aborted. A run (`LiveQuery.Runs`) is any
sequence of such moves, with the list of what happened in it. Neither the time, the state of the source nor
what the live query looks at first is part of it: all may be anything at each step.

All that a step can do is said once (`LiveQuery.Does`).
-/

namespace NestedRows

inductive Happening where
  | published (e : ChangeEvent)
  /-- The live query reads from the feed. -/
  | heard (n : Notice)
  /-- The live query reads from the feed what the next refetch covers. -/
  | discarded (n : Notice)
  /-- A refetch begins with its first try. -/
  | began
  | ended (outcome : Except QueryError (List Json))
  | delivered (u : Update)
  | taken (u : Update)

namespace Happening

def ofTry : Except QueryError Flight → List Happening
  | .error e => [ended (.error e)]
  | .ok flight =>
    match flight.rows? with
    | some rows => [ended (.ok rows)]
    | none => []

/-- What happens when a fetch is begun after so many failed tries. -/
def ofStart (failures : Nat) (outcome : Except QueryError Flight) : List Happening :=
  match failures with
  | 0 => began :: ofTry outcome
  | _ + 1 => ofTry outcome

def ofReception (name : Notice → Happening) : Reception → List Happening
  | .notice n _ => [name n]
  | .empty | .closed => []

end Happening

def eventsIn (h : List Happening) : List ChangeEvent :=
  h.filterMap fun | .published e => some e | _ => none

def outcomesIn (h : List Happening) : List (Except QueryError (List Json)) :=
  h.filterMap fun | .ended outcome => some outcome | _ => none

def updatesIn (h : List Happening) : List Update :=
  h.filterMap fun | .delivered u => some u | _ => none

def takenIn (h : List Happening) : List Update :=
  h.filterMap fun | .taken u => some u | _ => none

theorem eventsIn_append (h more : List Happening) : eventsIn (h ++ more) = eventsIn h ++ eventsIn more :=
  List.filterMap_append

theorem outcomesIn_append (h more : List Happening) :
    outcomesIn (h ++ more) = outcomesIn h ++ outcomesIn more :=
  List.filterMap_append

theorem updatesIn_append (h more : List Happening) :
    updatesIn (h ++ more) = updatesIn h ++ updatesIn more :=
  List.filterMap_append

theorem takenIn_append (h more : List Happening) : takenIn (h ++ more) = takenIn h ++ takenIn more :=
  List.filterMap_append

namespace Happening

theorem silent_ofTry (outcome : Except QueryError Flight) : began ∉ ofTry outcome ∧
    eventsIn (ofTry outcome) = [] ∧ updatesIn (ofTry outcome) = [] ∧ takenIn (ofTry outcome) = [] := by
  cases outcome with
  | error e => exact ⟨by simp [ofTry], rfl, rfl, rfl⟩
  | ok flight =>
    rw [ofTry]
    cases flight.rows? with
    | none => exact ⟨List.not_mem_nil, rfl, rfl, rfl⟩
    | some rows => exact ⟨by simp, rfl, rfl, rfl⟩

end Happening

theorem mem_eventsIn {h : List Happening} {e : ChangeEvent} : e ∈ eventsIn h ↔ .published e ∈ h := by
  rw [eventsIn, List.mem_filterMap]
  constructor
  · rintro ⟨happening, hmem, heq⟩
    cases happening <;> cases heq
    exact hmem
  · exact fun hmem => ⟨_, hmem, rfl⟩

namespace LiveQuery

variable {σ : Type} {config : LiveConfig} {source : DeferredSource σ} {d : Dialect} {first : Glance}
  {now : Nat} {q q' : LiveQuery} {f f' : Feed} {state state' : σ}

theorem watches_eq_false_iff {t : TableId} :
    q.watches t = false ↔ ¬ (t.namespaceName = q.namespaceName ∧ t.table ∈ q.query.touched) := by
  rw [Bool.eq_false_iff, ne_eq, watches, List.contains_iff_mem, tables, List.mem_map]
  refine not_congr ⟨?_, ?_⟩
  · rintro ⟨table, hmem, rfl⟩
    exact ⟨rfl, hmem⟩
  · rintro ⟨hnamespace, hmem⟩
    exact ⟨t.table, hmem, by rw [← hnamespace]⟩

/-! ### Steps -/

/-- What happens with the next step of a live query, if it does not have to wait. -/
def doings (source : DeferredSource σ) (d : Dialect) (first : Glance) (q : LiveQuery) (f : Feed)
    (state : σ) : List Happening :=
  match q.stage with
  | .listening =>
    if q.seesLeft first then [] else Happening.ofReception .heard (f.receive q.receiver)
  | .discarding => Happening.ofReception .discarded (f.receive q.receiver)
  | .starting failures => Happening.ofStart failures (q.query.launch source d state).1
  | .fetching _ flight => Happening.ofTry (flight.advance source d state).1
  | .resting _ _ _ => []
  | .delivering u => if q.hasSubscriber then [.delivered u] else []
  | .stopped => []

/-- What a step can do, and what happens with it. -/
inductive Does (config : LiveConfig) (q : LiveQuery) (f : Feed) :
    List Happening → LiveQuery → Feed → Prop
  | hear (hstage : q.stage = .listening) {n : Notice} {f' : Feed}
      (hreceive : f.receive q.receiver = .notice n f') : Does config q f [.heard n] (q.hear config n) f'
  | discard (hstage : q.stage = .discarding) {n : Notice} {f' : Feed}
      (hreceive : f.receive q.receiver = .notice n f') : Does config q f [.discarded n] q f'
  | cleared (hstage : q.stage = .discarding) (hreceive : f.receive q.receiver = .empty ∨
      f.receive q.receiver = .closed) : Does config q f [] { q with stage := .starting 0 } f
  | start {failures : Nat} (hstage : q.stage = .starting failures) (now : Nat)
      (outcome : Except QueryError Flight) :
      Does config q f (Happening.ofStart failures outcome) (q.follow config now failures outcome) f
  | look {failures : Nat} {flight : Flight} (hstage : q.stage = .fetching failures flight) (now : Nat)
      (outcome : Except QueryError Flight) :
      Does config q f (Happening.ofTry outcome) (q.follow config now failures outcome) f
  | wake {failures delay due now : Nat} (hstage : q.stage = .resting failures delay due)
      (hdue : due ≤ now) :
      Does config q f [] { q with stage := .starting failures } f
  | deliver {u : Update} (hstage : q.stage = .delivering u) (hsubscriber : q.hasSubscriber = true)
      (hroom : q.updates.length < max config.subscriberBuffer 1) :
      Does config q f [.delivered u] { q with updates := q.updates ++ [u], stage := .listening } f
  | stop (hstage : q.stage = .listening ∨ ∃ u, q.stage = .delivering u)
      (hover : q.hasSubscriber = false ∨ f.receive q.receiver = .closed) :
      Does config q f [] (q.stop f).1 (q.stop f).2

theorem hasSubscriber_of_seesLeft (h : q.seesLeft first = true) : q.hasSubscriber = false := by
  cases first with
  | subscriber => exact (Bool.not_eq_true' _).mp h
  | feed => cases h

theorem does_of_step? (h : q.step? config source d first now f state = some ((q', f'), state')) :
    q.Does config f (q.doings source d first f state) q' f' := by
  rw [step?] at h
  rw [doings]
  cases hstage : q.stage with
  | listening =>
    simp only [hstage] at h ⊢
    by_cases hleft : q.seesLeft first = true
    case pos =>
      rw [if_pos hleft] at h ⊢
      cases h
      exact .stop (.inl hstage) (.inl (hasSubscriber_of_seesLeft hleft))
    case neg =>
      rw [if_neg hleft] at h ⊢
      cases hreceive : f.receive q.receiver with
      | notice n g =>
        rw [hreceive] at h
        cases h
        exact .hear hstage hreceive
      | empty =>
        simp only [hreceive] at h
        split at h
        case isTrue => cases h
        case isFalse hgone =>
          cases h
          exact .stop (.inl hstage) (.inl (Bool.eq_false_iff.mpr hgone))
      | closed =>
        rw [hreceive] at h
        cases h
        exact .stop (.inl hstage) (.inr hreceive)
  | discarding =>
    simp only [hstage] at h ⊢
    cases hreceive : f.receive q.receiver with
    | notice n g =>
      rw [hreceive] at h
      cases h
      exact .discard hstage hreceive
    | empty =>
      rw [hreceive] at h
      cases h
      exact .cleared hstage (.inl hreceive)
    | closed =>
      rw [hreceive] at h
      cases h
      exact .cleared hstage (.inr hreceive)
  | starting failures =>
    simp only [hstage] at h ⊢
    cases h
    exact .start hstage now _
  | fetching failures flight =>
    simp only [hstage] at h ⊢
    split at h
    case isTrue =>
      cases h
      exact .look hstage now _
    case isFalse => cases h
  | resting failures delay due =>
    simp only [hstage] at h ⊢
    split at h
    case isTrue hdue =>
      cases h
      exact .wake hstage hdue
    case isFalse => cases h
  | delivering u =>
    simp only [hstage] at h ⊢
    by_cases hsubscriber : q.hasSubscriber = true
    case neg =>
      rw [if_neg hsubscriber] at h ⊢
      cases h
      exact .stop (.inr ⟨u, hstage⟩) (.inl (Bool.eq_false_iff.mpr hsubscriber))
    case pos =>
      rw [if_pos hsubscriber] at h ⊢
      split at h
      case isTrue hroom =>
        cases h
        exact .deliver hstage hsubscriber hroom
      case isFalse => cases h
  | stopped => simp [hstage] at h

/-- After a look at a fetch it is still under way, or a try has ended and another one or an update
follows. -/
theorem follow_cases (config : LiveConfig) (now failures : Nat) (q : LiveQuery)
    (outcome : Except QueryError Flight) :
    ∃ stage, q.follow config now failures outcome = { q with stage } ∧
      ((Happening.ofTry outcome = [] ∧ ∃ flight, stage = .fetching failures flight) ∨
        ∃ result, Happening.ofTry outcome = [.ended result] ∧
          (config.retry.retries failures result = true ∧ stage = .resting (failures + 1)
              (config.retry.delay failures) (restEnd now (config.retry.delay failures)) ∨
            config.retry.retries failures result = false ∧ stage = .delivering (.ofOutcome result))) := by
  have hconclude : ∀ result, ∃ stage, q.conclude config now failures result = { q with stage } ∧
      (config.retry.retries failures result = true ∧ stage = .resting (failures + 1)
          (config.retry.delay failures) (restEnd now (config.retry.delay failures)) ∨
        config.retry.retries failures result = false ∧ stage = .delivering (.ofOutcome result)) := by
    intro result
    rw [conclude]
    cases hretries : config.retry.retries failures result with
    | true => exact ⟨_, rfl, .inl ⟨rfl, rfl⟩⟩
    | false => exact ⟨_, rfl, .inr ⟨rfl, rfl⟩⟩
  cases outcome with
  | error e =>
    obtain ⟨stage, heq, hcases⟩ := hconclude (.error e)
    exact ⟨stage, heq, .inr ⟨_, rfl, hcases⟩⟩
  | ok flight =>
    rw [follow, Happening.ofTry]
    cases flight.rows? with
    | none => exact ⟨_, rfl, .inl ⟨rfl, flight, rfl⟩⟩
    | some rows =>
      obtain ⟨stage, heq, hcases⟩ := hconclude (.ok rows)
      exact ⟨stage, heq, .inr ⟨_, rfl, hcases⟩⟩

/-! ### Moves and runs -/

/-- What may happen next: a step of the live query, or something that it has no part in. -/
inductive Moves (config : LiveConfig) (source : DeferredSource σ) (d : Dialect) (q : LiveQuery)
    (f : Feed) : List Happening → LiveQuery → Feed → Prop
  | step (first : Glance) (now : Nat) (state : σ) {state' : σ} {q' : LiveQuery} {f' : Feed}
      (h : q.step? config source d first now f state = some ((q', f'), state')) :
      Moves config source d q f (q.doings source d first f state) q' f'
  | requestAbort : Moves config source d q f [] q.requestAbort f
  | abort (state : σ) :
      Moves config source d q f [] (q.abort source f state).1.1 (q.abort source f state).1.2
  | publish (e : ChangeEvent) : Moves config source d q f [.published e] q (f.publish e)
  | act {f' : Feed} (h : f.Acts (· ≠ q.receiver) f') : Moves config source d q f [] q f'
  | take {u : Update} {q' : LiveQuery} (h : q.take? = some (u, q')) :
      Moves config source d q f [.taken u] q' f
  | takeAll : Moves config source d q f (q.takeAll.1.map .taken) q.takeAll.2 f
  | leave : Moves config source d q f [] q.leave f

/-- Any number of moves, with what happened in them. -/
inductive Runs (config : LiveConfig) (source : DeferredSource σ) (d : Dialect) (q : LiveQuery)
    (f : Feed) : List Happening → LiveQuery → Feed → Prop
  | start : Runs config source d q f [] q f
  | next {h more : List Happening} {q' q'' : LiveQuery} {f' f'' : Feed}
      (hrun : Runs config source d q f h q' f') (hmove : q'.Moves config source d f' more q'' f'') :
      Runs config source d q f (h ++ more) q'' f''

structure SameAs (q q' : LiveQuery) : Prop where
  query : q'.query = q.query
  namespaceName : q'.namespaceName = q.namespaceName
  receiver : q'.receiver = q.receiver

theorem SameAs.watches (h : q.SameAs q') : q'.watches = q.watches := by
  funext t
  rw [LiveQuery.watches, tables, h.query, h.namespaceName, LiveQuery.watches, tables]

theorem Does.sameAs {happenings : List Happening} (h : q.Does config f happenings q' f') :
    q.SameAs q' := by
  cases h with
  | hear =>
    rw [LiveQuery.hear]
    split <;> exact ⟨rfl, rfl, rfl⟩
  | start _ now outcome | look _ now outcome =>
    obtain ⟨stage, heq, -⟩ := follow_cases config now _ q outcome
    rw [heq]
    exact ⟨rfl, rfl, rfl⟩
  | discard | cleared | wake | deliver | stop => exact ⟨rfl, rfl, rfl⟩

theorem take?_eq_some {u : Update} (h : q.take? = some (u, q')) :
    ∃ rest, q.updates = u :: rest ∧ q' = { q with updates := rest } := by
  rw [take?] at h
  split at h
  case h_1 => cases h
  case h_2 hupdates =>
    cases h
    exact ⟨_, hupdates, rfl⟩

theorem Moves.sameAs {happenings : List Happening} (h : q.Moves config source d f happenings q' f') :
    q.SameAs q' := by
  cases h with
  | step _ _ _ hstep => exact (does_of_step? hstep).sameAs
  | take htake =>
    obtain ⟨rest, -, rfl⟩ := take?_eq_some htake
    exact ⟨rfl, rfl, rfl⟩
  | requestAbort | abort | publish | act | takeAll | leave => exact ⟨rfl, rfl, rfl⟩

theorem Runs.sameAs {h : List Happening} (hrun : q.Runs config source d f h q' f') : q.SameAs q' := by
  induction hrun with
  | start => exact ⟨rfl, rfl, rfl⟩
  | next _ hmove ih =>
    have hsame := hmove.sameAs
    exact ⟨hsame.query.trans ih.query, hsame.namespaceName.trans ih.namespaceName,
      hsame.receiver.trans ih.receiver⟩

theorem Does.updates_eq {more : List Happening} (h : q.Does config f more q' f') :
    q'.hasSubscriber = q.hasSubscriber ∧ takenIn more = [] ∧
      q'.updates = q.updates ++ updatesIn more := by
  cases h with
  | hear =>
    rw [LiveQuery.hear]
    split <;> exact ⟨rfl, rfl, (List.append_nil _).symm⟩
  | @start failures _ now outcome =>
    obtain ⟨stage, heq, -⟩ := follow_cases config now failures q outcome
    obtain ⟨-, -, hupdates, htaken⟩ := Happening.silent_ofTry outcome
    have hstart : takenIn (Happening.ofStart failures outcome) = [] ∧
        updatesIn (Happening.ofStart failures outcome) = [] := by
      cases failures <;> exact ⟨htaken, hupdates⟩
    rw [heq, hstart.2, List.append_nil]
    exact ⟨rfl, hstart.1, rfl⟩
  | @look failures _ _ now outcome =>
    obtain ⟨stage, heq, -⟩ := follow_cases config now failures q outcome
    obtain ⟨-, -, hupdates, htaken⟩ := Happening.silent_ofTry outcome
    rw [heq, hupdates, List.append_nil]
    exact ⟨rfl, htaken, rfl⟩
  | deliver => exact ⟨rfl, rfl, rfl⟩
  | discard | cleared | wake | stop => exact ⟨rfl, rfl, (List.append_nil _).symm⟩

theorem takenIn_map_taken (l : List Update) :
    takenIn (l.map .taken) = l ∧ updatesIn (l.map .taken) = [] := by
  induction l with
  | nil => exact ⟨rfl, rfl⟩
  | cons u rest ih => exact ⟨congrArg (u :: ·) ih.1, ih.2⟩

theorem Moves.updates_eq {more : List Happening} (h : q.Moves config source d f more q' f')
    (hthere : q'.hasSubscriber = true) :
    q.hasSubscriber = true ∧ q.updates ++ updatesIn more = takenIn more ++ q'.updates := by
  cases h with
  | step _ _ _ hstep =>
    obtain ⟨hsubscriber, htaken, hupdates⟩ := (does_of_step? hstep).updates_eq
    rw [htaken, hupdates]
    exact ⟨hsubscriber ▸ hthere, rfl⟩
  | take htake =>
    obtain ⟨rest, hupdates, rfl⟩ := take?_eq_some htake
    refine ⟨hthere, ?_⟩
    rw [hupdates]
    exact List.append_nil _
  | takeAll =>
    obtain ⟨htaken, hupdates⟩ := takenIn_map_taken q.updates
    refine ⟨hthere, ?_⟩
    rw [LiveQuery.takeAll, htaken, hupdates]
  | requestAbort | abort | publish | act => exact ⟨hthere, List.append_nil _⟩
  | leave => cases hthere

/-- As long as the subscriber is there, what was handed over was taken by it or waits for it. -/
theorem Runs.updatesIn_eq {h : List Happening} (hrun : q.Runs config source d f h q' f')
    (hnone : q.updates = []) (hthere : q'.hasSubscriber = true) :
    updatesIn h = takenIn h ++ q'.updates := by
  induction hrun with
  | start => exact hnone.symm
  | next _ hmove ih =>
    obtain ⟨hbefore, heq⟩ := hmove.updates_eq hthere
    rw [updatesIn_append, takenIn_append, ih hbefore, List.append_assoc, heq, List.append_assoc]

end LiveQuery

end NestedRows
