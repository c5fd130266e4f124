import NestedRows.Proofs.Query.Fetching
import NestedRows.Proofs.Query.Meaning
/-!
# Rows below rows

A statement below another is fetched once for all rows above it, and its objects are grouped once. What an
object gets of them is the same as if the batch were searched for its row alone: the objects of the rows that
match it, in the order of the answer (`CompiledQuery.run_nested`). This is so for whatever rows a source
answers with, also for rows that nobody asked for and for rows without a key.

The nested form of an answer is defined without groups and slots (`Component.nested`). That the slots lead to
the right groups is an induction on the emission of the components, since the slots are given out there.
-/

namespace NestedRows

variable {σ : Type}

/-- Whether a row matches one of the statement above: both values are there, are not null, and have the same
JSON text. -/
def Row.matches (below : Row) (column : String) (above : Row) (parentKey : String) : Bool :=
  match above.get? parentKey, below.get? column with
  | none, _ | some .null, _ | _, none | _, some .null => false
  | some v, some w => v.render = w.render

/-- The rows of the batch that belong to a row above. -/
def Fetch.matching (f : Fetch) (batch : List Row) (above : Row) (parentKey : String) : List Row :=
  batch.filter fun below => f.filter.any fun c => below.matches c.name above parentKey

mutual

/-- The field that a component of the statement at `path` makes of a row. -/
def Component.nested (answers : Answers) (path : List Nat) (row : Row) : Component → String × Json
  | .row field column => (field, (row.get? column).getD .null)
  | .one field presence children =>
    match row.get? presence with
    | none | some .null => (field, .null)
    | some _ => (field, .sortedObj (nestedFields answers path row children))
  | .many field parentKey slot fetch components =>
    let path := path ++ [slot]
    (field, .arr ((fetch.matching (answers path) row parentKey).map fun below =>
      .sortedObj (nestedFields answers path below components)))

def nestedFields (answers : Answers) (path : List Nat) (row : Row) : List Component → List (String × Json)
  | [] => []
  | c :: rest => c.nested answers path row :: nestedFields answers path row rest

end

/-! ### Matching rows -/

theorem Row.matches_eq (below above : Row) (column parentKey : String) :
    below.matches column above parentKey =
      (above.key? parentKey).any fun k => below.key? column = some k := by
  rw [Row.matches, Row.key?, Row.key?]
  rcases above.get? parentKey with _ | v
  · rfl
  · rcases below.get? column with _ | w
    · cases v <;> rfl
    · by_cases hv : v = .null
      · subst hv
        rfl
      · by_cases hw : w = .null
        · subst hw
          cases v <;> simp [keyOf]
        · rw [Option.bind_some, Option.bind_some, keyOf_of_ne_null hv, keyOf_of_ne_null hw]
          cases v <;> cases w <;> simp_all [eq_comm]

/-- Rows above with the same key have the same rows below. -/
theorem Fetch.matching_of_key?_eq (f : Fetch) (batch : List Row) {above above' : Row} {parentKey : String}
    (h : above.key? parentKey = above'.key? parentKey) :
    f.matching batch above parentKey = f.matching batch above' parentKey := by
  simp only [Fetch.matching, Row.matches_eq, h]

theorem Fetch.matching_of_no_key (f : Fetch) (batch : List Row) {above : Row} {parentKey : String}
    (h : above.key? parentKey = none) : f.matching batch above parentKey = [] := by
  simp [Fetch.matching, Row.matches_eq, h]

/-- The group of a row's key holds the objects of the rows that match it. -/
theorem group_of_key {fetch : Fetch} {parentKey : String} (components : List Component)
    (batch : List Row) (above : Row) (subs : List Groups) :
    ((above.key? parentKey).bind (group (Statement.assembleAll ⟨fetch, components⟩ batch subs)).get?).getD []
      = (fetch.matching batch above parentKey).map fun below => assemble components below subs := by
  cases hkey : above.key? parentKey with
  | none => rw [fetch.matching_of_no_key batch hkey]; rfl
  | some k =>
    have hmatch : ∀ below : Row, (fetch.filter.any fun c => below.matches c.name above parentKey)
        = decide ((fetch.filter.bind fun c => below.key? c.name) = some k) := by
      intro below
      cases fetch.filter with
      | none => rfl
      | some c => simp [Row.matches_eq, hkey]
    rw [Option.bind_some, get?_group, Statement.assembleAll, List.filter_map, List.map_map, Fetch.matching]
    simp only [hmatch]
    rfl

/-! ### Nested fields -/

namespace Plan

variable {namespaceName : Option String} {aliasName : String} {fields : List Field} {e e' : Emission}
  {components : List Component}

/-- Slots are given out one after the other, one for each group. -/
theorem Emits.length_groupsOf (h : Emits namespaceName aliasName fields e components e')
    (answers : Answers) (path : List Nat) :
    e'.subFetches = e.subFetches + (groupsOf answers path components).length := by
  induction h generalizing path with
  | nil => rfl
  | scalar _ ih =>
    rw [ih path, Emission.subFetches_select, groupsOf]
    rfl
  | one _ _ ihchildren ih =>
    rw [ih path, ihchildren path, Emission.subFetches_select, groupsOf, List.length_append, Nat.add_assoc]
    rfl
  | many _ _ _ ih =>
    rw [ih path, Emission.after, Emission.subFetches_select, groupsOf, List.length_append, Nat.add_assoc]
    rfl

theorem Emits.assembleFields_eq (h : Emits namespaceName aliasName fields e components e')
    (answers : Answers) (path : List Nat) (before : List Groups) (hbefore : before.length = e.subFetches)
    (after : List Groups) (row : Row) :
    assembleFields row (before ++ groupsOf answers path components ++ after) components
      = nestedFields answers path row components := by
  induction h generalizing path before after row with
  | nil => rfl
  | scalar _ ih =>
    rw [assembleFields, nestedFields, groupsOf]
    refine congrArg₂ _ rfl (ih path before ?_ after row)
    rw [hbefore, Emission.subFetches_select]
  | @one _ _ _ _ _ _ _ _ _ _ _ more hchildren _ ihchildren ih =>
    have hlength := hchildren.length_groupsOf answers path
    rw [Emission.subFetches_select] at hlength
    rw [assembleFields, nestedFields, groupsOf]
    refine congrArg₂ _ ?_ ?_
    · simp only [Emission.subFetches_select] at ihchildren
      have hfields := ihchildren path before hbefore (groupsOf answers path more ++ after) row
      have hassoc : ∀ groups, before ++ (groups ++ groupsOf answers path more) ++ after
          = before ++ groups ++ (groupsOf answers path more ++ after) := by
        simp
      rw [← hassoc] at hfields
      rw [Component.assemble, Component.nested, ← hfields]
      rfl
    · rw [← List.append_assoc before]
      refine ih path _ ?_ after row
      rw [List.length_append, hbefore]
      exact hlength.symm
  | @many _ _ _ _ _ _ _ e _ _ components more _ _ ihchildren ih =>
    rw [assembleFields, nestedFields, groupsOf]
    refine congrArg₂ _ ?_ ?_
    · have hassoc : ∀ groups : Groups, before ++ ([groups] ++ groupsOf answers path more) ++ after
          = before ++ [groups] ++ (groupsOf answers path more ++ after) := by
        simp
      rw [Component.groups, hassoc, Component.assemble_many hbefore, group_of_key, Component.nested]
      have hobject : ∀ below, assemble components below (groupsOf answers (path ++ [e.subFetches]) components)
          = .sortedObj (nestedFields answers (path ++ [e.subFetches]) below components) := by
        intro below
        have hfields := ihchildren (path ++ [e.subFetches]) [] rfl [] below
        rw [List.nil_append, List.append_nil] at hfields
        rw [assemble, hfields]
      simp only [hobject]
    · rw [← List.append_assoc before]
      refine ih path _ ?_ after row
      rw [List.length_append, hbefore, Emission.after, Emission.subFetches_select]
      rfl

end Plan

/-! ### Answers of visits -/

/-- The rows that a statement was answered with; none if it was not fetched. -/
def rowsAt (visits : List Visit) : Answers := fun path =>
  match visits.find? fun v => v.place.path = path with
  | some ⟨_, _, .ok rows⟩ => rows
  | _ => []

theorem reports_rowsAt {visits : List Visit} {places : List Place}
    (hvisits : (visits.map Visit.place).Sublist places)
    (horder : places.Pairwise fun p p' => p.path < p'.path)
    (hok : ∀ v ∈ visits, ∃ rows, v.answer = .ok rows) : Reports (rowsAt visits) visits places := by
  have hpaths := nodup_of_ascending horder
  have hin : InOrder visits [] := by
    rw [InOrder, List.append_nil]
    exact horder.sublist hvisits
  constructor
  · intro v hv
    have hfound : visits.find? (fun w => w.place.path = v.place.path) = some v := by
      cases hfirst : visits.find? fun w => w.place.path = v.place.path with
      | none => simpa using List.find?_eq_none.mp hfirst v hv
      | some w =>
        have hpath : w.place.path = v.place.path := by simpa using List.find?_some hfirst
        rw [hin.eq_of_path_eq (List.mem_of_find?_eq_some hfirst) hv hpath]
    obtain ⟨rows, hrows⟩ := hok v hv
    obtain ⟨place, keys, answer⟩ := v
    simp only at hrows hfound ⊢
    rw [rowsAt, hfound, hrows]
  · intro p hp hnot
    have hnone : visits.find? (fun w => w.place.path = p.path) = none := by
      rw [List.find?_eq_none]
      intro w hw hpath
      have hplace := List.mem_map_of_mem (f := Visit.place) hw
      have heq := List.inj_on_of_nodup_map hpaths (hvisits.subset hplace) hp (of_decide_eq_true hpath)
      exact hnot (heq ▸ hplace)
    rw [rowsAt, hnone]

namespace CompiledQuery

variable {g : TypeGraph} {sel : Selection} {namespaceName : Option String} {q : CompiledQuery}
  (hq : CompiledQuery.of g sel namespaceName = .ok q)

/-- The answer to a query, nested row by row. -/
def nested (q : CompiledQuery) (answers : Answers) : List Json :=
  (answers []).map fun row => .sortedObj (nestedFields answers [] row q.statement.components)

include hq

/-- Grouping each batch once is the same as searching it for every row. -/
theorem objects_eq_nested (answers : Answers) : q.objects answers = q.nested answers := by
  obtain ⟨fields, e, -, hemits⟩ := exists_emits hq
  rw [objects, Place.objects, Statement.assembleAll, List.map_map, nested]
  refine List.map_congr_left fun row _ => ?_
  have hfields := hemits.assembleFields_eq answers [] [] rfl [] row
  rw [List.nil_append, List.append_nil] at hfields
  change Json.sortedObj _ = _
  rw [← hfields]
  rfl

/-- **Batches are given to the rows they belong to.** If no fetch of a run fails, the query answers with an
object for each row of the root, in which every list, however deep, holds the objects of those rows of the
statement's answer that match the row above, in the order of the answer; a statement that was not fetched has
no rows. So rows above with the same key get the same list, and one without a key gets none. -/
theorem run_nested (source : RowSource σ) (d : Dialect) (state : σ) :
    let log := (q.run source.logged d (state, [])).2.2
    (∀ asked ∈ log, ∃ rows, asked.answer = .ok rows) →
    ∃ visits, log = visits.map (Visit.asked d) ∧ q.Fetched visits (q.run source d state).1 ∧
      (q.run source d state).1 = .ok (q.nested (rowsAt visits)) ∧
      ∀ (fetch : Fetch) (path : List Nat) (parentKey : String) (above : Row),
        (above.key? parentKey = none → fetch.matching (rowsAt visits path) above parentKey = []) ∧
        ∀ above' : Row, above.key? parentKey = above'.key? parentKey →
          fetch.matching (rowsAt visits path) above parentKey
            = fetch.matching (rowsAt visits path) above' parentKey := by
  intro log hlog
  obtain ⟨visits, hwalk, hresult⟩ := run_walksTo hq source.logged d (state, [])
  have horder := pairwise_places hq
  have hvisits : log = visits.map (Visit.asked d) := hwalk.log
  have hfetched : q.Fetched visits (q.run source.logged d (state, [])).1 :=
    hwalk.fetched horder (fun p hp => exists_filter_of_mem hq hp) fun e => Run.failure?_eq_some_iff
  have hok : ∀ v ∈ visits, ∃ rows, v.answer = .ok rows := by
    intro v hv
    refine hlog (v.asked d) ?_
    rw [hvisits]
    exact List.mem_map_of_mem hv
  have hplain : (q.run source.logged d (state, [])).1 = (q.run source d state).1 :=
    congrArg Prod.fst (q.unlogged_run source d (state, []))
  rw [hplain] at hfetched hresult
  refine ⟨visits, hvisits, hfetched, ?_, fun fetch path parentKey above => ⟨?_, ?_⟩⟩
  · cases hrun : (q.run source d state).1 with
    | ok objects =>
      rw [hresult objects hrun _ (reports_rowsAt hwalk.sublist horder hok), objects_eq_nested hq]
    | error e =>
      obtain ⟨v, hv, e', he'⟩ := hfetched.failed_iff.mp ⟨e, hrun⟩
      obtain ⟨rows, hrows⟩ := hok v hv
      rw [hrows] at he'
      cases he'
  · exact fun hkey => fetch.matching_of_no_key _ hkey
  · exact fun above' hkey => fetch.matching_of_key?_eq _ hkey

end CompiledQuery

/-- Two customers with one key, one with null and one without. Two of the customers brought for them were
referred by the two, one by nobody and one by somebody who was not asked for; one of the orders has no
customer. -/
def batchAnswers : List (Except QueryError (List Row)) := [
  .ok [[("t0_id", .int 7)], [("t0_id", .null)], [("t0_id", .int 7)], []],
  .ok [[("t1_referrer_id", .int 7), ("t1_id", .int 8)], [("t1_referrer_id", .null), ("t1_id", .int 9)],
    [("t1_referrer_id", .int 6), ("t1_id", .int 10)], [("t1_id", .int 8), ("t1_referrer_id", .int 7)]],
  .ok [[("t2_referrer_id", .int 8), ("t2_id", .int 1)], [("t2_referrer_id", .int 10), ("t2_id", .int 2)]],
  .ok [[("t3_id", .int 5)], [("t3_customer_id", .int 7), ("t3_id", .int 6)]]]

/-- The lengths of the lists that objects have under a name. -/
def lengthsUnder (field : String) (objects : List Json) : List (Option Nat) :=
  objects.map fun v => ((v.field? field).bind Json.items?).map List.length

theorem CompiledQuery.run_nested_listsSelection : ∃ s g q visits,
    Schema.ofTables Schema.shopTables = .ok s ∧ TypeGraph.ofSchema s = .ok g ∧
    CompiledQuery.of g listsSelection none = .ok q ∧
    (q.run RowSource.ofAnswers .sqlite batchAnswers).1 = .ok (q.nested (rowsAt visits)) ∧
    lengthsUnder "customers_on_referrer_id" (q.nested (rowsAt visits)) = [some 2, some 0, some 2, some 0] ∧
    lengthsUnder "orders_on_customer_id" (q.nested (rowsAt visits)) = [some 1, some 0, some 1, some 0] := by
  have htest : ((Schema.ofTables Schema.shopTables).toOption.any fun s =>
      (TypeGraph.ofSchema s).toOption.any fun g =>
        (CompiledQuery.of g listsSelection none).toOption.any fun q =>
          ((q.run RowSource.ofAnswers.logged .sqlite (batchAnswers, [])).2.2.all fun asked =>
            asked.answer.isOk) &&
          (q.run RowSource.ofAnswers .sqlite batchAnswers).1.toOption.any fun objects =>
            decide (lengthsUnder "customers_on_referrer_id" objects = [some 2, some 0, some 2, some 0] ∧
              lengthsUnder "orders_on_customer_id" objects = [some 1, some 0, some 1, some 0])) = true := by
    decide +kernel
  obtain ⟨s, g, q, hs, hg, hq, htest⟩ := exists_of_test htest
  obtain ⟨hanswers, hobjects⟩ := Bool.and_eq_true_iff.mp htest
  obtain ⟨objects, hobjects, htest⟩ := exists_ok_of_any hobjects
  obtain ⟨visits, -, -, hrun, -⟩ := run_nested hq RowSource.ofAnswers .sqlite batchAnswers
    fun asked hasked => by
      cases hanswer : asked.answer with
      | ok rows => exact ⟨rows, rfl⟩
      | error e =>
        have hok := List.all_eq_true.mp hanswers asked hasked
        rw [hanswer] at hok
        cases hok
  obtain rfl := Except.ok.inj (hrun.symm.trans hobjects)
  exact ⟨s, g, q, visits, hs, hg, hq, hrun, of_decide_eq_true htest⟩

end NestedRows
