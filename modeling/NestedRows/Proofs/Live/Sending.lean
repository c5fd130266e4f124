import NestedRows.Live.Registry
import NestedRows.Proofs.Live.Run
import NestedRows.Proofs.Query.Sending
/-!
# What a live query sends

A live query keeps the query that it was registered with, and whenever it fetches it sends statements of
this query (`LiveQuery.goes_of_step?`). What else happens to the live queries of a feed leaves their queries
as they are (`LiveQueries.Sound.acts`).
-/

namespace NestedRows

variable {σ : Type} {source : DeferredSource σ} {d : Dialect} {first : Glance} {now : Nat}

namespace LiveQuery

variable {config : LiveConfig} {q q' : LiveQuery} {f f' : Feed} {sent : List Sent}

/-- A fetch that is under way is one of the query. -/
def Within (q : LiveQuery) : Prop :=
  ∀ failures flight, q.stage = .fetching failures flight → flight.Within q.query.Has

theorem within_of_ne (h : ∀ failures flight, q.stage ≠ .fetching failures flight) : q.Within :=
  fun failures flight hstage => absurd hstage (h failures flight)

theorem within_conclude (failures : Nat) (outcome : Except QueryError (List Json)) :
    (q.conclude config now failures outcome).Within := by
  apply within_of_ne
  intro failures' flight
  rw [conclude]
  split <;> simp

theorem within_follow (failures : Nat) {outcome : Except QueryError Flight}
    (h : ∀ flight, outcome = .ok flight → flight.Within q.query.Has) :
    (q.follow config now failures outcome).Within := by
  cases outcome with
  | error e => exact within_conclude failures _
  | ok flight =>
    rw [follow]
    split
    · exact within_conclude failures _
    · intro failures' flight' hstage
      cases hstage
      exact h flight rfl

/-- The live query has gone on with the same query and sent statements of it. -/
structure Goes (d : Dialect) (q q' : LiveQuery) (sent : List Sent) : Prop where
  query : q'.query = q.query
  within : q'.Within
  sent : ∀ x ∈ sent, SentFrom d q.query.Has x

/-- A live query that keeps its stage or takes one without a fetch has sent nothing. -/
theorem goes_nil (hquery : q'.query = q.query)
    (hstage : ∀ failures flight, q'.stage ≠ .fetching failures flight) : q.Goes d q' [] :=
  ⟨hquery, within_of_ne hstage, by simp⟩

theorem follow_query (failures : Nat) (outcome : Except QueryError Flight) :
    (q.follow config now failures outcome).query = q.query := by
  obtain ⟨stage, heq, -⟩ := follow_cases config now failures q outcome
  rw [heq]

theorem goes_follow (failures : Nat) {r : Run (σ × List Sent) Flight} {r' : Run σ Flight}
    (h : Run.Sends d q.query.Has (Flight.Within q.query.Has) [] r r') :
    q.Goes d (q.follow config now failures r.1) r.2.2 := by
  cases h with
  | intro hmore hresult =>
    exact ⟨follow_query failures _, within_follow failures hresult, hmore⟩

theorem goes_hear (n : Notice) (hstage : q.stage = .listening) : q.Goes d (q.hear config n) [] := by
  rw [hear]
  split
  · exact goes_nil rfl (by cases config.coalesceEvents <;> simp)
  · exact goes_nil rfl (by simp [hstage])

theorem goes_of_step? (hq : q.Within) {state state' : σ}
    (h : q.step? config source.logged d first now f (state, []) = some ((q', f'), (state', sent))) :
    q.Goes d q' sent := by
  have hstop : q.Goes d (q.stop f).1 [] := goes_nil rfl (by simp [stop])
  rw [step?] at h
  cases hstage : q.stage with
  | listening =>
    simp only [hstage] at h
    split at h
    · cases h
      exact hstop
    · split at h
      · cases h
        exact goes_hear _ hstage
      · split at h
        · cases h
        · cases h
          exact hstop
      · cases h
        exact hstop
  | discarding =>
    simp only [hstage] at h
    split at h
    · cases h
      exact goes_nil rfl (by simp [hstage])
    · cases h
      exact goes_nil rfl (by simp)
    · cases h
      exact goes_nil rfl (by simp)
  | starting failures =>
    simp only [hstage, Option.some.injEq, Prod.mk.injEq] at h
    obtain ⟨⟨rfl, -⟩, hstate⟩ := h
    obtain rfl : _ = sent := congrArg Prod.snd hstate
    exact goes_follow failures (q.query.launch_sends q.query.closedBelow_has q.query.has_root (state, []))
  | fetching failures flight =>
    simp only [hstage] at h
    split at h
    · simp only [Option.some.injEq, Prod.mk.injEq] at h
      obtain ⟨⟨rfl, -⟩, hstate⟩ := h
      obtain rfl : _ = sent := congrArg Prod.snd hstate
      exact goes_follow failures
        (flight.advance_sends q.query.closedBelow_has (hq failures flight hstage) (state, []))
    · cases h
  | resting failures delay due =>
    simp only [hstage] at h
    split at h
    · cases h
      exact goes_nil rfl (by simp)
    · cases h
  | delivering u =>
    simp only [hstage] at h
    split at h
    · split at h
      · cases h
        exact goes_nil rfl (by simp)
      · cases h
    · cases h
      exact hstop
  | stopped => simp [hstage] at h

/-- The log makes no difference to a step. -/
theorem unlogged_step? (q : LiveQuery) (f : Feed) (state : σ × List Sent) :
    (q.step? config source.logged d first now f state).map (fun p => (p.1, p.2.1))
      = q.step? config source d first now f state.1 := by
  rw [step?, step?]
  cases q.stage with
  | listening =>
    dsimp only
    split
    · rfl
    · cases f.receive q.receiver with
      | empty =>
        dsimp only
        split <;> rfl
      | notice | closed => rfl
  | discarding => cases f.receive q.receiver <;> rfl
  | starting failures =>
    dsimp only
    rw [CompiledQuery.unlogged_launch source d q.query state]
    rfl
  | fetching failures flight =>
    dsimp only
    rw [flight.unlogged_advance source d state, flight.canAdvance_logged]
    split <;> rfl
  | resting failures delay due =>
    dsimp only
    split <;> rfl
  | delivering u =>
    dsimp only
    split
    · split <;> rfl
    · rfl
  | stopped => rfl

end LiveQuery

/-! ### The live queries of a feed -/

namespace LiveQueries

variable {l l' : LiveQueries} {id : LiveQueryId} {q q' : LiveQuery} {sent : List Sent}

/-- The live queries have numbers that were issued, and they fetch what is of their queries. -/
def Sound (l : LiveQueries) : Prop :=
  ∀ id q, l.tasks.get? id = some q → id < l.issued ∧ q.Within

/-- Every live query is still there, with its query. -/
def Keeps (l l' : LiveQueries) : Prop :=
  ∀ id q, l.tasks.get? id = some q → ∃ q', l'.tasks.get? id = some q' ∧ q'.query = q.query

theorem Keeps.refl (l : LiveQueries) : l.Keeps l := fun _ q hq => ⟨q, hq, rfl⟩

theorem arm_eq (l : LiveQueries) (id : LiveQueryId) :
    (l.arm id).tasks = l.tasks ∧ (l.arm id).issued = l.issued ∧ (l.arm id).feed = l.feed := by
  rw [arm]
  split <;> exact ⟨rfl, rfl, rfl⟩

theorem step?_eq_some {state state' : σ} (h : l.step? source d first now id state = some (l', state')) :
    ∃ q q' f, l.tasks.get? id = some q ∧
      q.step? l.config source d first now l.feed state = some ((q', f), state') ∧ l' = l.update id q' f := by
  simp only [step?, Option.pure_def, Option.bind_eq_bind, Option.bind_eq_some_iff, Option.some.injEq,
    Prod.mk.injEq] at h
  obtain ⟨q, hq, ⟨⟨q', f⟩, next⟩, hstep, rfl, rfl⟩ := h
  exact ⟨q, q', f, hq, hstep, rfl⟩

theorem take?_eq_some {u : Update} (h : l.take? id = some (u, l')) :
    ∃ q rest, l.tasks.get? id = some q ∧ q.updates = u :: rest ∧
      l' = { l with tasks := l.tasks.insert id { q with updates := rest } } := by
  simp only [take?, Option.pure_def, Option.bind_eq_bind, Option.bind_eq_some_iff, Option.some.injEq,
    Prod.mk.injEq] at h
  obtain ⟨q, hq, ⟨u, q'⟩, htake, rfl, rfl⟩ := h
  obtain ⟨rest, hupdates, rfl⟩ := LiveQuery.take?_eq_some htake
  exact ⟨q, rest, hq, hupdates, rfl⟩

theorem sound_ofConfig (config : LiveConfig) : (ofConfig config).Sound := by
  intro id q h
  cases h

namespace Sound

variable (h : l.Sound)

include h

theorem congr (htasks : l'.tasks = l.tasks) (hissued : l'.issued = l.issued) :
    l'.Sound ∧ l.Keeps l' := by
  constructor
  · intro id q hget
    rw [htasks] at hget
    rw [hissued]
    exact h id q hget
  · intro id q hget
    exact ⟨q, by rwa [htasks], rfl⟩

theorem insert (hget : l.tasks.get? id = some q) (htasks : l'.tasks = l.tasks.insert id q')
    (hissued : l'.issued = l.issued) (hquery : q'.query = q.query) (hwithin : q'.Within) :
    l'.Sound ∧ l.Keeps l' := by
  constructor
  · intro j p hj
    rw [htasks] at hj
    rw [hissued]
    by_cases heq : j = id
    · subst heq
      rw [SortedMap.get?_insert_self] at hj
      cases hj
      exact ⟨(h j q hget).1, hwithin⟩
    · rw [SortedMap.get?_insert_of_ne _ _ heq] at hj
      exact h j p hj
  · intro j p hj
    rw [htasks]
    by_cases heq : j = id
    · subst heq
      obtain rfl := Option.some.inj (hget.symm.trans hj)
      exact ⟨q', SortedMap.get?_insert_self _ _ _, hquery⟩
    · exact ⟨p, by rwa [SortedMap.get?_insert_of_ne _ _ heq], rfl⟩

theorem step {state state' : σ}
    (hstep : l.step? source.logged d first now id (state, []) = some (l', (state', sent))) :
    (l'.Sound ∧ l.Keeps l') ∧
      ∃ q, l.tasks.get? id = some q ∧ ∀ x ∈ sent, SentFrom d q.query.Has x := by
  obtain ⟨q, q', f, hget, hq, rfl⟩ := step?_eq_some hstep
  have hgoes := LiveQuery.goes_of_step? (h id q hget).2 hq
  exact ⟨h.insert hget rfl rfl hgoes.query hgoes.within, q, hget, hgoes.sent⟩

/-- A new live query has a number of its own. -/
theorem subscribe (query : CompiledQuery) (namespaceName : String) :
    (l.subscribe query namespaceName).2.Sound ∧ l.Keeps (l.subscribe query namespaceName).2 ∧
      ∃ q, (l.subscribe query namespaceName).2.tasks.get? (l.subscribe query namespaceName).1 = some q ∧
        q.query = query := by
  have htasks : (l.subscribe query namespaceName).2.tasks
      = l.tasks.insert l.issued (l.register query namespaceName).2.1 := (arm_eq _ _).1
  have hissued : (l.subscribe query namespaceName).2.issued = l.issued + 1 := (arm_eq _ _).2.1
  refine ⟨fun id q hget => ?_, fun id q hget => ?_, ?_⟩
  · rw [htasks] at hget
    rw [hissued]
    by_cases heq : id = l.issued
    · subst heq
      rw [SortedMap.get?_insert_self] at hget
      cases hget
      exact ⟨Nat.lt_succ_self _, LiveQuery.within_of_ne (by simp [register])⟩
    · rw [SortedMap.get?_insert_of_ne _ _ heq] at hget
      exact ⟨Nat.lt_succ_of_lt (h id q hget).1, (h id q hget).2⟩
  · rw [htasks, SortedMap.get?_insert_of_ne _ _ (Nat.ne_of_lt (h id q hget).1)]
    exact ⟨q, hget, rfl⟩
  · rw [htasks]
    exact ⟨_, SortedMap.get?_insert_self _ _ _, rfl⟩

end Sound

/-- What happens to the live queries of a feed besides their steps. -/
inductive Acts (source : DeferredSource σ) (l : LiveQueries) : LiveQueries → Prop
  | publish (e : ChangeEvent) : Acts source l (l.publish e).2
  | feed {f : Feed} (h : l.feed.Acts (fun _ => True) f) : Acts source l { l with feed := f }
  | cancel (id : LiveQueryId) : Acts source l (l.cancel id).2
  | abort (id : LiveQueryId) (state : σ) : Acts source l (l.abort source id state).1
  | take {id : LiveQueryId} {u : Update} {l' : LiveQueries} (h : l.take? id = some (u, l')) :
    Acts source l l'
  | takeAll (id : LiveQueryId) : Acts source l (l.takeAll id).2
  | leave (id : LiveQueryId) : Acts source l (l.leave id)

theorem Sound.cancel (h : l.Sound) (id : LiveQueryId) : (l.cancel id).2.Sound ∧ l.Keeps (l.cancel id).2 := by
  rw [LiveQueries.cancel]
  cases l.registry.get? id with
  | none => exact h.congr rfl rfl
  | some r =>
    dsimp only
    split
    · rw [requestAbort]
      cases hget : l.tasks.get? id with
      | none => exact h.congr rfl rfl
      | some q => exact h.insert hget rfl rfl rfl (h id q hget).2
    · exact h.congr rfl rfl

theorem Sound.abort (h : l.Sound) (id : LiveQueryId) (state : σ) :
    (l.abort source id state).1.Sound ∧ l.Keeps (l.abort source id state).1 := by
  rw [LiveQueries.abort]
  cases hget : l.tasks.get? id with
  | none => exact h.congr rfl rfl
  | some q =>
    dsimp only
    split
    · refine h.insert hget rfl rfl rfl (LiveQuery.within_of_ne ?_)
      simp [LiveQuery.abort, LiveQuery.stop]
    · exact h.congr rfl rfl

theorem Sound.acts (h : l.Sound) (hacts : l.Acts source l') : l'.Sound ∧ l.Keeps l' := by
  cases hacts with
  | publish | feed => exact h.congr rfl rfl
  | cancel id => exact h.cancel id
  | abort id state => exact h.abort id state
  | take htake =>
    obtain ⟨q, rest, hget, -, rfl⟩ := take?_eq_some htake
    exact h.insert hget rfl rfl rfl (h _ q hget).2
  | takeAll id =>
    rw [LiveQueries.takeAll]
    cases hget : l.tasks.get? id with
    | none => exact h.congr rfl rfl
    | some q => exact h.insert hget rfl rfl rfl (h id q hget).2
  | leave id =>
    rw [LiveQueries.leave]
    cases hget : l.tasks.get? id with
    | none => exact h.congr rfl rfl
    | some q => exact h.insert hget rfl rfl rfl (h id q hget).2

end LiveQueries

end NestedRows
