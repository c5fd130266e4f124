import NestedRows.Proofs.Query.Walk
/-!
# What a run makes of its answers

A run makes a walk along the places of its statements (`CompiledQuery.run_makesWalk`), and a run that
succeeds makes its groups and its objects of the rows that the walk brought, as if all answers had been
there at the beginning (`groupsOf`). Both are said at once, by induction on the components: only behind the
rows of a statement is it known which of those below are due (`Run.WalksTo`).

A statement that was not visited has no rows, which is what a run makes of it as well.
-/

namespace NestedRows

variable {σ α β : Type}

/-- The rows of the statements, by their paths. -/
abbrev Answers := List Nat → List Row

mutual

/-- The groups of the statements right below a component, which stands in the statement at `path`. -/
def Component.groups (answers : Answers) (path : List Nat) : Component → List Groups
  | .row _ _ => []
  | .one _ _ children => groupsOf answers path children
  | .many _ _ slot fetch components =>
    [group (Statement.assembleAll ⟨fetch, components⟩ (answers (path ++ [slot]))
      (groupsOf answers (path ++ [slot]) components))]

def groupsOf (answers : Answers) (path : List Nat) : List Component → List Groups
  | [] => []
  | c :: rest => c.groups answers path ++ groupsOf answers path rest

end

/-- A place and those below it. -/
def Place.tree (p : Place) : List Place := p :: placesOf p.path p.statement.components

/-- The objects of a statement at its place. -/
def Place.objects (answers : Answers) (p : Place) : List (Option String × Json) :=
  p.statement.assembleAll (answers p.path) (groupsOf answers p.path p.statement.components)

/-- The answers are those of the visits, and there are no rows where nothing was visited. -/
structure Reports (answers : Answers) (visits : List Visit) (places : List Place) : Prop where
  visited : ∀ v ∈ visits, v.answer = .ok (answers v.place.path)
  others : ∀ p ∈ places, p ∉ visits.map Visit.place → answers p.path = []

section Reports

variable {answers : Answers} {visits more : List Visit} {places places' : List Place}

theorem Reports.split (h : Reports answers (visits ++ more) (places ++ places'))
    (hvisits : (visits.map Visit.place).Sublist places) (hmore : (more.map Visit.place).Sublist places')
    (horder : (places ++ places').Pairwise fun p p' => p.path < p'.path) :
    Reports answers visits places ∧ Reports answers more places' := by
  have hdisjoint : ∀ p ∈ places, p ∉ places' := by
    intro p hp hp'
    exact List.lt_irrefl _ ((List.pairwise_append.mp horder).2.2 p hp p hp')
  refine ⟨⟨fun v hv => h.visited v (List.mem_append_left _ hv), fun p hp hnot => ?_⟩,
    ⟨fun v hv => h.visited v (List.mem_append_right _ hv), fun p hp hnot => ?_⟩⟩
  · refine h.others p (List.mem_append_left _ hp) ?_
    rw [List.map_append, List.mem_append]
    exact fun hmem => hmem.elim hnot fun hmem => hdisjoint p hp (hmore.subset hmem)
  · refine h.others p (List.mem_append_right _ hp) ?_
    rw [List.map_append, List.mem_append]
    exact fun hmem => hmem.elim (fun hmem => hdisjoint p (hvisits.subset hmem) hp) hnot

end Reports

/-! ### Runs walk -/

/-- The error of a run. -/
def Run.failure? (r : Run σ α) : Option QueryError :=
  match r.1 with
  | .ok _ => none
  | .error e => some e

/-- The run makes a walk along the places, and its result suits the visits. -/
def Run.WalksTo (source : RowSource σ) (d : Dialect) (before : List Visit) (places : List Place)
    (state : σ) (suits : List Visit → α → Prop) (r : Run σ α) : Prop :=
  ∃ more, Walk source d before places state more r.failure? r.2 ∧ ∀ a, r.1 = .ok a → suits more a

section Run

variable {source : RowSource σ} {d : Dialect} {before : List Visit} {places places' : List Place}
  {state : σ}

theorem Run.WalksTo.imp {r : Run σ α} {suits suits' : List Visit → α → Prop}
    (h : r.WalksTo source d before places state suits)
    (himp : ∀ more a, (more.map Visit.place).Sublist places → suits more a → suits' more a) :
    r.WalksTo source d before places state suits' := by
  obtain ⟨more, hwalk, hsuits⟩ := h
  exact ⟨more, hwalk, fun a ha => himp more a hwalk.sublist (hsuits a ha)⟩

theorem Run.WalksTo.next {r : Run σ α} {f : α → σ → Run σ β} {suits : List Visit → α → Prop}
    {suits' : List Visit → β → Prop} (h : r.WalksTo source d before places state suits)
    (hnext : ∀ a more, (more.map Visit.place).Sublist places → suits more a →
      (f a r.2).WalksTo source d (before ++ more) places' r.2 fun more' b => suits' (more ++ more') b) :
    (r.next f).WalksTo source d before (places ++ places') state suits' := by
  obtain ⟨more, hwalk, hsuits⟩ := h
  obtain ⟨result, mid⟩ := r
  cases result with
  | error e => exact ⟨more, hwalk.append_of_failure rfl places', nofun⟩
  | ok a =>
    obtain ⟨more', hwalk', hsuits'⟩ := hnext a more hwalk.sublist (hsuits a rfl)
    exact ⟨more ++ more', hwalk.append rfl hwalk', hsuits'⟩

theorem Run.WalksTo.map {r : Run σ α} {suits : List Visit → α → Prop} {suits' : List Visit → β → Prop}
    (h : r.WalksTo source d before places state suits) {f : α → β}
    (hf : ∀ more a, (more.map Visit.place).Sublist places → suits more a → suits' more (f a)) :
    (r.next fun a state => (.ok (f a), state)).WalksTo source d before places state suits' := by
  rw [← List.append_nil places]
  refine h.next fun a more hmore ha => ⟨[], .done _ _, ?_⟩
  rintro _ ⟨⟩
  rw [List.append_nil]
  exact hf more a hmore ha

/-- A statement is fetched if it is due; otherwise nothing below it is due either. -/
theorem Statement.run_walksTo (p : Place) (keys : List Sql.Literal)
    (hpairwise : p.tree.Pairwise fun p p' => p.path < p'.path)
    (hdue : (p.statement.fetch.filter.isSome && keys.isEmpty) = false → p.Due before keys)
    (hskip : (p.statement.fetch.filter.isSome && keys.isEmpty) = true →
      ∀ p' ∈ p.tree, ∀ keys', ¬ p'.Due before keys')
    (hbelow : ∀ rows next, (runBelow source d p.statement.components rows next).WalksTo source d
      (before ++ [⟨p, keys, .ok rows⟩]) (placesOf p.path p.statement.components) next
      fun more groups => ∀ answers, Reports answers more (placesOf p.path p.statement.components) →
        groups = groupsOf answers p.path p.statement.components) (state : σ) :
    (p.statement.run source d keys state).WalksTo source d before p.tree state
      fun more objects => ∀ answers, Reports answers more p.tree → objects = p.objects answers := by
  rw [Statement.run, Statement.runWith]
  split
  case isTrue hempty =>
    refine ⟨[], .of_not_due (hskip hempty) state, ?_⟩
    rintro _ ⟨⟩ answers hreports
    rw [Place.objects, hreports.others p List.mem_cons_self List.not_mem_nil]
    rfl
  case isFalse hempty =>
    have hkeys := hdue (Bool.eq_false_iff.mpr hempty)
    cases hanswer : source (p.statement.fetch.render d keys) p.statement.fetch.columns state with
    | mk answer next =>
      cases answer with
      | error e => exact ⟨_, .fail hkeys hanswer, nofun⟩
      | ok rows =>
        have hassemble : ((runBelow source d p.statement.components rows next).next fun groups state =>
            (.ok (p.statement.assembleAll rows groups), state)).WalksTo source d
            (before ++ [⟨p, keys, .ok rows⟩]) (placesOf p.path p.statement.components) next
            fun more objects => ∀ answers, Reports answers (⟨p, keys, .ok rows⟩ :: more) p.tree →
              objects = p.objects answers := by
          refine (hbelow rows next).map fun more groups hmore hgroups answers hreports => ?_
          have htree : Reports answers ([⟨p, keys, .ok rows⟩] ++ more)
            ([p] ++ placesOf p.path p.statement.components) := hreports
          obtain ⟨hfirst, hrest⟩ := htree.split (List.Sublist.refl _) hmore hpairwise
          have hrows : Except.ok rows = Except.ok (answers p.path) :=
            hfirst.visited _ (List.mem_singleton_self _)
          rw [hgroups answers hrest, Except.ok.inj hrows]
          rfl
        obtain ⟨more, hwalk, hobjects⟩ := hassemble
        exact ⟨_, .fetch hkeys hanswer hwalk, hobjects⟩

mutual

theorem Component.runBelow_walksTo : (c : Component) → {before : List Visit} → {u : Visit} →
    {rows : List Row} → u ∈ before → u.answer = .ok rows →
    c.subFetches ⊆ subFetchesOf u.place.statement.components →
    (∀ p ∈ c.places u.place.path, ∃ f, p.statement.fetch.filter = some f) →
    InOrder before (c.places u.place.path) → (state : σ) →
    (c.runBelow source d rows state).WalksTo source d before (c.places u.place.path) state
      fun more groups => ∀ answers, Reports answers more (c.places u.place.path) →
        groups = c.groups answers u.place.path
  | .row _ _, _, _, _, _, _, _, _, _, state => by
    refine ⟨[], .done _ state, ?_⟩
    rintro _ ⟨⟩ answers -
    rfl
  | .one _ _ children, _, _, _, hu, hrows, hsubs, hfilter, horder, state =>
    runBelow_walksTo children hu hrows hsubs hfilter horder state
  | .many field parentKey slot fetch components, before, u, rows, hu, hrows, hsubs, hfilter, horder,
      state => by
    let sub : SubFetch := ⟨field, slot, parentKey, ⟨fetch, components⟩⟩
    obtain ⟨f, hf⟩ := hfilter _ List.mem_cons_self
    rw [Component.runBelow]
    refine (Statement.run_walksTo (u.place.below sub) (distinctKeys rows parentKey)
      (List.pairwise_append.mp horder).2.1 ?hdue ?hskip ?hbelow state).map ?hgroups
    case hdue =>
      intro hfetched
      refine .below hu hrows (hsubs (List.mem_singleton_self sub)) rfl rfl ?_
      intro hempty
      have hskipped : (fetch.filter.isSome && (distinctKeys rows parentKey).isEmpty) = true := by
        simp only at hf
        rw [hf, hempty]
        rfl
      exact Bool.false_ne_true (hfetched.symm.trans hskipped)
    case hskip =>
      intro hskipped
      have hempty := List.isEmpty_iff.mp (Bool.and_eq_true_iff.mp hskipped).2
      exact not_due_of_no_keys hu hrows hempty horder
    case hbelow =>
      intro below next
      exact runBelow_walksTo components (List.mem_append_right _ (List.mem_singleton_self _)) rfl
        (List.Subset.refl _) (fun p hp => hfilter p (List.mem_cons_of_mem _ hp))
        (horder.visited _ _) next
    case hgroups =>
      intro more objects _ hobjects answers hreports
      rw [hobjects answers hreports]
      rfl

theorem runBelow_walksTo : (l : List Component) → {before : List Visit} → {u : Visit} →
    {rows : List Row} → u ∈ before → u.answer = .ok rows →
    subFetchesOf l ⊆ subFetchesOf u.place.statement.components →
    (∀ p ∈ placesOf u.place.path l, ∃ f, p.statement.fetch.filter = some f) →
    InOrder before (placesOf u.place.path l) → (state : σ) →
    (runBelow source d l rows state).WalksTo source d before (placesOf u.place.path l) state
      fun more groups => ∀ answers, Reports answers more (placesOf u.place.path l) →
        groups = groupsOf answers u.place.path l
  | [], _, _, _, _, _, _, _, _, state => by
    refine ⟨[], .done _ state, ?_⟩
    rintro _ ⟨⟩ answers -
    rfl
  | c :: rest, before, u, rows, hu, hrows, hsubs, hfilter, horder, state => by
    obtain ⟨hfirst, hrest⟩ := List.append_subset.mp hsubs
    have hhead : InOrder before (c.places u.place.path) :=
      horder.sublist ((List.Sublist.refl _).append (List.sublist_append_left _ _))
    have hpairwise := (List.pairwise_append.mp horder).2.1
    rw [runBelow, placesOf]
    refine (c.runBelow_walksTo hu hrows hfirst (fun p hp => hfilter p (List.mem_append_left _ hp))
      hhead state).next fun groups more hmore hgroups => ?_
    refine (runBelow_walksTo rest (List.mem_append_left _ hu) hrows hrest
      (fun p hp => hfilter p (List.mem_append_right _ hp)) (horder.after hmore) _).map ?_
    intro more' groups' hmore' hgroups' answers hreports
    obtain ⟨hreports, hreports'⟩ := hreports.split hmore hmore' hpairwise
    rw [hgroups answers hreports, hgroups' answers hreports']
    rfl

end

end Run

namespace CompiledQuery

variable {g : TypeGraph} {sel : Selection} {namespaceName : Option String} {q : CompiledQuery}
  (hq : CompiledQuery.of g sel namespaceName = .ok q) (source : RowSource σ) (d : Dialect)

/-- The objects made of all answers at once. -/
def objects (q : CompiledQuery) (answers : Answers) : List Json := (q.top.objects answers).map (·.2)

include hq

/-- A run walks along the places of its statements, and what it answers is made of what the walk brought. -/
theorem run_walksTo (state : σ) : (q.run source d state).WalksTo source d [] q.places state
    fun more result => ∀ answers, Reports answers more q.places → result = q.objects answers := by
  have hpairwise := pairwise_places hq
  rw [CompiledQuery.run]
  refine (Statement.run_walksTo q.top [] hpairwise (fun _ => .top rfl rfl rfl) ?hskip ?hbelow state).map
    fun more objects _ hobjects answers hreports => congrArg _ (hobjects answers hreports)
  case hskip =>
    intro hskipped
    rw [filter_top hq] at hskipped
    cases hskipped
  case hbelow =>
    intro rows next
    exact runBelow_walksTo _ (u := ⟨q.top, [], .ok rows⟩) (List.mem_singleton_self _) rfl
      (List.Subset.refl _) (fun p hp => exists_filter_of_mem hq hp) hpairwise next

theorem run_makesWalk (state : σ) :
    ∃ more, Walk source d [] q.places state more (q.run source d state).failure?
      (q.run source d state).2 := by
  obtain ⟨more, hwalk, -⟩ := run_walksTo hq source d state
  exact ⟨more, hwalk⟩

end CompiledQuery

end NestedRows
