import NestedRows.Proofs.Query.Immediate
import NestedRows.Proofs.Query.Keys
import NestedRows.Proofs.Query.Batches
/-!
# What a run fetches

The fetches of a run follow the order in which the statements are explained (`CompiledQuery.run_fetched`).
The root is fetched, and below a statement that brought keys what it brought them for, once for all rows,
until there is an error. What is fetched is what the source is asked: a source can keep a log without
anything else becoming different (`CompiledQuery.unlogged_run`), and the log of a run is made of the visits
of its walk.
-/

namespace NestedRows

variable {σ α β : Type}

/-! ### Keeping a log -/

/-- What a source was asked, with its answer. -/
structure Asked where
  sql : String
  columns : List OutputColumn
  answer : Except QueryError (List Row)

/-- The source that also keeps a log of what it is asked. -/
def RowSource.logged (source : RowSource σ) : RowSource (σ × List Asked) := fun sql columns state =>
  let (answer, next) := source sql columns state.1
  (answer, (next, state.2 ++ [⟨sql, columns, answer⟩]))

/-- The run without the log. -/
def Run.unlogged (r : Run (σ × List Asked) α) : Run σ α := (r.1, r.2.1)

theorem Run.unlogged_next {r : Run (σ × List Asked) α} {f : α → σ × List Asked → Run (σ × List Asked) β}
    {g : α → σ → Run σ β} (h : ∀ a state, (f a state).unlogged = g a state.1) :
    (r.next f).unlogged = r.unlogged.next g := by
  obtain ⟨result, state⟩ := r
  cases result with
  | ok a => exact h a state
  | error e => rfl

theorem Run.unlogged_map (r : Run (σ × List Asked) α) (f : α → β) :
    (r.next fun a state => (.ok (f a), state)).unlogged
      = r.unlogged.next fun a state => (.ok (f a), state) :=
  Run.unlogged_next fun _ _ => rfl

section Logged

variable (source : RowSource σ) (d : Dialect)

theorem Statement.unlogged_runWith (s : Statement) (keys : List Sql.Literal)
    {below : List Row → σ × List Asked → Run (σ × List Asked) (List Groups)}
    {below' : List Row → σ → Run σ (List Groups)}
    (h : ∀ rows state, (below rows state).unlogged = below' rows state.1) (state : σ × List Asked) :
    (s.runWith source.logged d keys below state).unlogged = s.runWith source d keys below' state.1 := by
  rw [Statement.runWith, Statement.runWith]
  split
  · rfl
  · apply Run.unlogged_next
    intro rows state
    rw [Run.unlogged_map, h]

mutual

theorem Component.unlogged_runBelow : (c : Component) → (rows : List Row) → (state : σ × List Asked) →
    (c.runBelow source.logged d rows state).unlogged = c.runBelow source d rows state.1
  | .row _ _, _, _ => rfl
  | .one _ _ children, rows, state => unlogged_runBelow children rows state
  | .many _ _ _ _ components, rows, state => by
    rw [Component.runBelow, Component.runBelow, Run.unlogged_map,
      Statement.unlogged_runWith source d _ _ (unlogged_runBelow components)]

theorem unlogged_runBelow : (l : List Component) → (rows : List Row) → (state : σ × List Asked) →
    (runBelow source.logged d l rows state).unlogged = runBelow source d l rows state.1
  | [], _, _ => rfl
  | c :: rest, rows, state => by
    rw [runBelow, runBelow, ← Component.unlogged_runBelow c rows state]
    apply Run.unlogged_next
    intro groups state
    rw [Run.unlogged_map, unlogged_runBelow rest rows state]

end

theorem CompiledQuery.unlogged_run (q : CompiledQuery) (state : σ × List Asked) :
    (q.run source.logged d state).unlogged = q.run source d state.1 := by
  rw [CompiledQuery.run, CompiledQuery.run, Run.unlogged_map, Statement.run,
    Statement.run, Statement.unlogged_runWith source d _ _ (unlogged_runBelow source d _)]

end Logged

def Visit.asked (d : Dialect) (v : Visit) : Asked :=
  ⟨v.place.statement.fetch.render d v.keys, v.place.statement.fetch.columns, v.answer⟩

/-- The log of a walk is made of its visits. -/
theorem Walk.log {source : RowSource σ} {d : Dialect} {before more : List Visit} {places : List Place}
    {failure : Option QueryError} {state final : σ × List Asked}
    (h : Walk source.logged d before places state more failure final) :
    final.2 = state.2 ++ more.map (Visit.asked d) := by
  induction h with
  | done => simp
  | skip _ _ ih => exact ih
  | fetch _ hanswer _ ih =>
    rw [RowSource.logged] at hanswer
    obtain ⟨hok, rfl⟩ := Prod.mk.inj hanswer
    rw [ih, hok, List.append_assoc]
    rfl
  | fail _ hanswer =>
    rw [RowSource.logged] at hanswer
    obtain ⟨herror, rfl⟩ := Prod.mk.inj hanswer
    rw [herror]
    rfl

/-! ### What is fetched -/

/-- The texts of a query are those of its places, the root first and then by their paths; the places are
the root and those right below a place. -/
structure CompiledQuery.Explains (q : CompiledQuery) (d : Dialect) : Prop where
  texts : q.explain d = q.places.map (Place.text d)
  top : q.places.head? = some q.top
  order : q.places.Pairwise fun p p' => p.path < p'.path
  mem_iff : ∀ p, p ∈ q.places ↔ p = q.top ∨ p.IsBelow q.places

/-- What is fetched in a run with the given result. -/
structure CompiledQuery.Fetched (q : CompiledQuery) (visits : List Visit)
    (result : Except QueryError (List Json)) : Prop where
  order : (visits.map Visit.place).Sublist q.places
  once : (visits.map fun v => v.place.path).Nodup
  top : ∃ v rest, visits = v :: rest ∧ v.place = q.top ∧ v.keys = []
  fetched_iff : ∀ above ∈ q.places, ∀ sub ∈ subFetchesOf above.statement.components,
    (∃ v ∈ visits, v.place = above.below sub) ↔
      (∃ u ∈ visits, u.place = above ∧
        ∃ rows, u.answer = .ok rows ∧ scalarsOf rows sub.parentKey ≠ []) ∧
      ∀ w ∈ visits, w.place.path < (above.below sub).path → ∃ rows, w.answer = .ok rows
  keys : ∀ v ∈ visits, v.place ≠ q.top →
    ∃ u ∈ visits, ∃ rows, u.answer = .ok rows ∧
      ∃ sub ∈ subFetchesOf u.place.statement.components, v.place = u.place.below sub ∧
        v.keys.map some
          = ((scalarsOf rows sub.parentKey).eraseDupsBy Json.sameText).map Sql.Literal.ofJson? ∧
        v.keys ≠ []
  restricted : ∀ v ∈ visits, v.place ≠ q.top → ∃ c : OutputColumn,
    v.place.statement.fetch.restricted v.keys
      = v.place.statement.fetch.query.filter (.isIn c.expr (v.keys.map .literal))
  failed_iff : (∃ e, result = .error e) ↔ ∃ v ∈ visits, ∃ e, v.answer = .error e
  /-- An error is the answer of the last fetch, and the result. -/
  failure : ∀ first v after e, visits = first ++ v :: after → v.answer = .error e →
    after = [] ∧ result = .error e

theorem Run.failure?_eq_some_iff {r : Run σ α} {e : QueryError} :
    r.failure? = some e ↔ r.1 = .error e := by
  obtain ⟨result, state⟩ := r
  cases result with
  | ok a => simp [Run.failure?]
  | error e' => simp [Run.failure?]

section Fetched

variable {source : RowSource σ} {d : Dialect} {q : CompiledQuery} {visits : List Visit}
  {failure : Option QueryError} {state final : σ}
  (h : Walk source d [] q.places state visits failure final)
  (horder : q.places.Pairwise fun p p' => p.path < p'.path)

include h

theorem Walk.exists_top : ∃ v rest, visits = v :: rest ∧ v.place = q.top ∧ v.keys = [] := by
  have hkeys : ∀ keys, q.top.Due [] keys → keys = [] := by
    intro keys hdue
    cases hdue with
    | top _ _ hkeys => exact hkeys
    | below hu => cases hu
  cases h with
  | skip hnot => exact absurd (.top rfl rfl rfl) (hnot [])
  | fetch hdue => exact ⟨_, _, rfl, rfl, hkeys _ hdue⟩
  | fail hdue => exact ⟨_, _, rfl, rfl, hkeys _ hdue⟩

include horder

theorem Walk.place_eq {v : Visit} (hv : v ∈ visits) {p : Place} (hp : p ∈ q.places)
    (hpath : v.place.path = p.path) : v.place = p :=
  List.inj_on_of_nodup_map (nodup_of_ascending horder)
    (h.sublist.subset (List.mem_map_of_mem hv)) hp hpath

theorem Walk.pairwise_visits : visits.Pairwise fun v w => v.place.path < w.place.path := by
  have hplaces := horder.sublist h.sublist
  rwa [List.pairwise_map] at hplaces

theorem Walk.exists_rows_of_lt {v w : Visit} (hv : v ∈ visits) (hw : w ∈ visits)
    (hlt : w.place.path < v.place.path) : ∃ rows, w.answer = .ok rows := by
  cases hanswer : w.answer with
  | ok rows => exact ⟨rows, rfl⟩
  | error e =>
    obtain ⟨first, after, rfl⟩ := List.mem_iff_append.mp hw
    obtain ⟨rfl, -⟩ := h.failure_eq rfl hanswer
    exfalso
    rcases List.mem_append.mp hv with hv | hv
    · have hgt := (List.pairwise_append.mp (h.pairwise_visits horder)).2.2 v hv w
        (List.mem_singleton_self w)
      exact List.lt_irrefl _ (List.lt_trans hlt hgt)
    · obtain rfl := List.mem_singleton.mp hv
      exact List.lt_irrefl _ hlt

/-- What is visited below the root is due to a visit of the statement right above. -/
theorem Walk.exists_above {v : Visit} (hv : v ∈ visits) (htop : v.place ≠ q.top) :
    ∃ u ∈ visits, ∃ rows, u.answer = .ok rows ∧
      ∃ sub ∈ subFetchesOf u.place.statement.components, v.place = u.place.below sub ∧
        v.keys = distinctKeys rows sub.parentKey ∧ v.keys ≠ [] := by
  cases h.due v hv with
  | top hpath hparent hkeys => exact absurd (h.place_eq horder hv List.mem_cons_self hpath) htop
  | below hu hrows hsub hp hkeys hne => exact ⟨_, hu, _, hrows, _, hsub, hp, hkeys, hne⟩

theorem Walk.fetched_iff {above : Place} (habove : above ∈ q.places) {sub : SubFetch}
    (hsub : sub ∈ subFetchesOf above.statement.components) :
    (∃ v ∈ visits, v.place = above.below sub) ↔
      (∃ u ∈ visits, u.place = above ∧
        ∃ rows, u.answer = .ok rows ∧ scalarsOf rows sub.parentKey ≠ []) ∧
      ∀ w ∈ visits, w.place.path < (above.below sub).path → ∃ rows, w.answer = .ok rows := by
  constructor
  · rintro ⟨v, hv, hplace⟩
    have htop : v.place ≠ q.top := by
      rw [hplace]
      intro heq
      exact absurd (congrArg Place.parentKey heq) (Option.some_ne_none _)
    obtain ⟨u, hu, rows, hrows, sub', -, hbelow, hkeys, hne⟩ := h.exists_above horder hv htop
    obtain ⟨hpath, hparent, -⟩ := Place.mk.inj (hbelow.symm.trans hplace)
    rw [Option.some.inj hparent] at hkeys
    refine ⟨⟨u, hu, h.place_eq horder hu habove (List.append_inj' hpath rfl).1, rows, hrows, ?_⟩, ?_⟩
    · rw [hkeys] at hne
      exact mt distinctKeys_eq_nil_iff.mpr hne
    · intro w hw hlt
      rw [← hplace] at hlt
      exact h.exists_rows_of_lt horder hv hw hlt
  · rintro ⟨⟨u, hu, rfl, rows, hrows, hscalars⟩, hok⟩
    have hne := mt distinctKeys_eq_nil_iff.mp hscalars
    have hdue : (u.place.below sub).Due ([] ++ visits) (distinctKeys rows sub.parentKey) :=
      .below hu hrows hsub rfl rfl hne
    exact h.exists_visit horder (CompiledQuery.below_mem_places habove hsub) hdue hok

theorem Walk.fetched {result : Except QueryError (List Json)}
    (hfilter : ∀ p ∈ placesOf [] q.statement.components, ∃ c, p.statement.fetch.filter = some c)
    (hresult : ∀ e, failure = some e ↔ result = .error e) : q.Fetched visits result where
  order := h.sublist
  once := nodup_of_ascending (h.pairwise_visits horder)
  top := h.exists_top
  fetched_iff above habove sub hsub := h.fetched_iff horder habove hsub
  keys v hv htop := by
    obtain ⟨u, hu, rows, hrows, sub, hsub, hplace, hkeys, hne⟩ := h.exists_above horder hv htop
    refine ⟨u, hu, rows, hrows, sub, hsub, hplace, ?_, hne⟩
    rw [hkeys]
    exact map_some_distinctKeys rows sub.parentKey
  restricted v hv htop := by
    have hmem := h.sublist.subset (List.mem_map_of_mem hv)
    obtain ⟨c, hc⟩ := hfilter v.place ((List.mem_cons.mp hmem).resolve_left htop)
    refine ⟨c, ?_⟩
    rw [Fetch.restricted, hc]
  failed_iff := by
    constructor
    · rintro ⟨e, he⟩
      obtain ⟨v, hv, hanswer⟩ := h.exists_failed ((hresult e).mpr he)
      exact ⟨v, hv, e, hanswer⟩
    · rintro ⟨v, hv, e, hanswer⟩
      obtain ⟨first, after, hsplit⟩ := List.mem_iff_append.mp hv
      exact ⟨e, (hresult e).mp (h.failure_eq hsplit hanswer).2⟩
  failure first v after e hsplit hanswer :=
    (h.failure_eq hsplit hanswer).imp_right (hresult e).mp

end Fetched

/-- **What a run fetches.** Some of the statements in the order in which they are explained: the root, and
below a statement that brought a key what it brought one for, until there is an error. The source is asked
for exactly these, and a run whose answers might come later is over at once with the same result. -/
theorem CompiledQuery.run_fetched {g : TypeGraph} {sel : Selection} {namespaceName : Option String}
    {q : CompiledQuery} (hq : CompiledQuery.of g sel namespaceName = .ok q) (source : RowSource σ)
    (d : Dialect) (state : σ) :
    q.Explains d ∧ ∃ visits, q.Fetched visits (q.run source d state).1 ∧
      q.run source.logged d (state, [])
        = ((q.run source d state).1, (q.run source d state).2, visits.map (Visit.asked d)) ∧
      Run.Agrees (fun rows flight => flight.rows? = some rows) (q.run source.logged d (state, []))
        (q.launch source.logged.immediate d ((state, []), none)) := by
  have horder := pairwise_places hq
  obtain ⟨visits, hwalk⟩ := run_makesWalk hq source.logged d (state, [])
  have hlog := hwalk.log
  have hplain := q.unlogged_run source d (state, [])
  have hfetched := hwalk.fetched horder (fun p hp => exists_filter_of_mem hq hp)
    fun e => Run.failure?_eq_some_iff
  refine ⟨⟨q.explain_eq d, rfl, horder, fun p => mem_places_iff⟩, visits, ?_, ?_,
    q.launch_immediate source.logged d (state, [])⟩
  · rw [← hplain]
    exact hfetched
  · rw [← hplain]
    exact Prod.ext rfl (Prod.ext rfl hlog)

/-- A source that answers with what stands next in a list. -/
def RowSource.ofAnswers : RowSource (List (Except QueryError (List Row))) := fun _ _ answers =>
  match answers with
  | [] => (.ok [], [])
  | answer :: rest => (answer, rest)

/-- Customers with two lists of rows, one of which leads to another. -/
def listsSelection : Selection := .node "customers" [
  .node "customers_on_referrer_id" [.node "customers_on_referrer_id" [.node "id" []]],
  .node "orders_on_customer_id" [.node "id" []]]

/-- Two customers with keys, one of them twice. Nobody was referred by them, and there is no connection for
their orders. -/
def listsAnswers : List (Except QueryError (List Row)) := [
  .ok [[("t0_id", .int 7)], [("t0_id", .null)], [("t0_id", .int 8)], [("t0_id", .arr [])],
    [("t0_id", .int 7)], []],
  .ok [],
  .error .poolTimeout]

/-- Of four statements three are fetched: nothing is below the second. -/
theorem CompiledQuery.run_fetched_listsSelection : ∃ s g q visits,
    Schema.ofTables Schema.shopTables = .ok s ∧ TypeGraph.ofSchema s = .ok g ∧
    CompiledQuery.of g listsSelection none = .ok q ∧
    q.places.map Place.path = [[], [0], [0, 0], [1]] ∧ q.Fetched visits (.error .poolTimeout) ∧
    visits.map (fun v => v.place.statement.fetch.columns.map OutputColumn.name)
      = [["t0_id"], ["t1_referrer_id", "t1_id"], ["t3_customer_id", "t3_id"]] := by
  have htest : ((Schema.ofTables Schema.shopTables).toOption.any fun s =>
      (TypeGraph.ofSchema s).toOption.any fun g =>
        (CompiledQuery.of g listsSelection none).toOption.any fun q =>
          let r := q.run RowSource.ofAnswers.logged .sqlite (listsAnswers, [])
          decide (q.places.map Place.path = [[], [0], [0, 0], [1]]) &&
            decide (r.failure? = some .poolTimeout) &&
            decide (r.2.2.map (fun a => a.columns.map OutputColumn.name)
              = [["t0_id"], ["t1_referrer_id", "t1_id"], ["t3_customer_id", "t3_id"]])) = true := by
    decide +kernel
  obtain ⟨s, g, q, hs, hg, hq, hall⟩ := exists_of_test htest
  obtain ⟨hboth, hcolumns⟩ := Bool.and_eq_true_iff.mp hall
  obtain ⟨hpaths, hfailure⟩ := Bool.and_eq_true_iff.mp hboth
  obtain ⟨-, visits, hfetched, hlog, -⟩ := run_fetched hq RowSource.ofAnswers .sqlite listsAnswers
  have herror := Run.failure?_eq_some_iff.mp (of_decide_eq_true hfailure)
  have hasked := of_decide_eq_true hcolumns
  rw [hlog] at herror hasked
  rw [herror] at hfetched
  rw [List.map_map] at hasked
  exact ⟨s, g, q, visits, hs, hg, hq, of_decide_eq_true hpaths, hfetched, hasked⟩

end NestedRows
