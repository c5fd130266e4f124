import NestedRows.Proofs.Query.Scoping
/-!
# Where the statements of a query stand

A statement stands at the end of a path of slots that begins at the root. The order in which the statements
are explained is that of their paths, an upper path before those that go on from it: the root first, then
the statements below it by their slots, each with everything below it before the next
(`CompiledQuery.explain_eq`, `CompiledQuery.pairwise_places`).
-/

namespace NestedRows

/-- A statement at its place: the slots that lead to it, and the column of the statement above whose values
it is restricted to. The root is restricted to nothing. -/
structure Place where
  path : List Nat
  parentKey : Option String
  statement : Statement

/-- The place of a statement right below. -/
def Place.below (p : Place) (sub : SubFetch) : Place :=
  ⟨p.path ++ [sub.slot], some sub.parentKey, sub.statement⟩

mutual

def Component.places (above : List Nat) : Component → List Place
  | .row _ _ => []
  | .one _ _ children => placesOf above children
  | .many _ parentKey slot fetch components =>
    ⟨above ++ [slot], some parentKey, ⟨fetch, components⟩⟩ :: placesOf (above ++ [slot]) components

def placesOf (above : List Nat) : List Component → List Place
  | [] => []
  | c :: rest => c.places above ++ placesOf above rest

end

def CompiledQuery.top (q : CompiledQuery) : Place := ⟨[], none, q.statement⟩

def CompiledQuery.places (q : CompiledQuery) : List Place :=
  q.top :: placesOf [] q.statement.components

/-- The text of the statement, with `NULL` for the keys if it is restricted. -/
def Place.text (d : Dialect) (p : Place) : String :=
  p.statement.fetch.render d (p.parentKey.toList.map fun _ => .null)

mutual

theorem Component.explain_eq (d : Dialect) (above : List Nat) :
    (c : Component) → c.explain d = (c.places above).map (Place.text d)
  | .row _ _ => rfl
  | .one _ _ children => explainAll_eq d above children
  | .many _ _ slot _ components => congrArg (_ :: ·) (explainAll_eq d (above ++ [slot]) components)

theorem explainAll_eq (d : Dialect) (above : List Nat) :
    (l : List Component) → explainAll d l = (placesOf above l).map (Place.text d)
  | [] => rfl
  | c :: rest => by
    rw [explainAll, placesOf, List.map_append, Component.explain_eq d above c,
      explainAll_eq d above rest]

end

theorem CompiledQuery.explain_eq (q : CompiledQuery) (d : Dialect) :
    q.explain d = q.places.map (Place.text d) :=
  congrArg (_ :: ·) (explainAll_eq d [] q.statement.components)

/-! ### Places right below -/

section Below

variable {p above : Place} {sub : SubFetch}

mutual

theorem Component.below_mem_places : (c : Component) → sub ∈ c.subFetches →
    above.below sub ∈ c.places above.path
  | .one _ _ children, h => below_mem_placesOf children h
  | .many _ _ _ _ _, h => by
    obtain rfl := List.mem_singleton.mp h
    exact List.mem_cons_self

theorem below_mem_placesOf : (l : List Component) → sub ∈ subFetchesOf l →
    above.below sub ∈ placesOf above.path l
  | c :: rest, h => by
    rcases List.mem_append.mp h with h | h
    · exact List.mem_append_left _ (c.below_mem_places h)
    · exact List.mem_append_right _ (below_mem_placesOf rest h)

end

mutual

theorem Component.below_mem_places_of_mem {path : List Nat} : (c : Component) → p ∈ c.places path →
    sub ∈ subFetchesOf p.statement.components → p.below sub ∈ c.places path
  | .one _ _ children, hp, hsub => below_mem_placesOf_of_mem children hp hsub
  | .many _ _ _ _ components, hp, hsub => by
    apply List.mem_cons_of_mem
    rcases List.mem_cons.mp hp with rfl | hp
    · exact below_mem_placesOf components hsub
    · exact below_mem_placesOf_of_mem components hp hsub

theorem below_mem_placesOf_of_mem {path : List Nat} : (l : List Component) → p ∈ placesOf path l →
    sub ∈ subFetchesOf p.statement.components → p.below sub ∈ placesOf path l
  | c :: rest, hp, hsub => by
    rcases List.mem_append.mp hp with hp | hp
    · exact List.mem_append_left _ (c.below_mem_places_of_mem hp hsub)
    · exact List.mem_append_right _ (below_mem_placesOf_of_mem rest hp hsub)

end

/-- The place is right below one of the given places. -/
def Place.IsBelow (p : Place) (places : List Place) : Prop :=
  ∃ above ∈ places, ∃ sub ∈ subFetchesOf above.statement.components, p = above.below sub

theorem Place.IsBelow.mono {places places' : List Place} (h : p.IsBelow places)
    (hsub : places ⊆ places') : p.IsBelow places' := by
  obtain ⟨above, hmem, hbelow⟩ := h
  exact ⟨above, hsub hmem, hbelow⟩

mutual

theorem Component.isBelow_of_mem_places (above : Place) : (c : Component) →
    c.subFetches ⊆ subFetchesOf above.statement.components → p ∈ c.places above.path →
    p.IsBelow (above :: c.places above.path)
  | .one _ _ children, hsubs, hp => isBelow_of_mem_placesOf above children hsubs hp
  | .many field parentKey slot fetch components, hsubs, hp => by
    rcases List.mem_cons.mp hp with rfl | hp
    · exact ⟨above, List.mem_cons_self, _, hsubs (List.mem_singleton_self _), rfl⟩
    · let sub : SubFetch := ⟨field, slot, parentKey, ⟨fetch, components⟩⟩
      have hbelow := isBelow_of_mem_placesOf (above.below sub) components (List.Subset.refl _) hp
      exact hbelow.mono (List.subset_cons_self _ _)

theorem isBelow_of_mem_placesOf (above : Place) : (l : List Component) →
    subFetchesOf l ⊆ subFetchesOf above.statement.components → p ∈ placesOf above.path l →
    p.IsBelow (above :: placesOf above.path l)
  | c :: rest, hsubs, hp => by
    obtain ⟨hfirst, hrest⟩ := List.append_subset.mp hsubs
    rcases List.mem_append.mp hp with hp | hp
    · exact (c.isBelow_of_mem_places above hfirst hp).mono
        (List.cons_subset_cons _ (List.subset_append_left _ _))
    · exact (isBelow_of_mem_placesOf above rest hrest hp).mono
        (List.cons_subset_cons _ (List.subset_append_right _ _))

end

theorem CompiledQuery.below_mem_places {q : CompiledQuery} (hp : p ∈ q.places)
    (hsub : sub ∈ subFetchesOf p.statement.components) : p.below sub ∈ q.places := by
  apply List.mem_cons_of_mem
  rcases List.mem_cons.mp hp with rfl | hp
  · exact below_mem_placesOf _ hsub
  · exact below_mem_placesOf_of_mem _ hp hsub

theorem CompiledQuery.mem_places_iff {q : CompiledQuery} :
    p ∈ q.places ↔ p = q.top ∨ p.IsBelow q.places := by
  constructor
  · intro hp
    refine (List.mem_cons.mp hp).imp_right fun hp => ?_
    exact isBelow_of_mem_placesOf q.top q.statement.components (List.Subset.refl _) hp
  · rintro (rfl | ⟨above, habove, sub, hsub, rfl⟩)
    · exact List.mem_cons_self
    · exact below_mem_places habove hsub

end Below

/-! ### The order of the places -/

theorem path_lt_path {above tail tail' : List Nat} {slot slot' : Nat} (h : slot < slot') :
    above ++ slot :: tail < above ++ slot' :: tail' :=
  List.append_left_lt (List.cons_lt_cons_iff.mpr (.inl h))

theorem path_lt_append (above : List Nat) (slot : Nat) (tail : List Nat) :
    above < above ++ slot :: tail := by
  have h : above ++ [] < above ++ slot :: tail := List.append_left_lt (List.nil_lt_cons _ _)
  rwa [List.append_nil] at h

mutual

/-- The path of a place goes on through the slot of a statement right below. -/
theorem Component.exists_path_of_mem {p : Place} {above : List Nat} : (c : Component) →
    p ∈ c.places above → ∃ sub ∈ c.subFetches, ∃ tail, p.path = above ++ sub.slot :: tail
  | .one _ _ children, hp => exists_path_of_mem children hp
  | .many _ _ slot _ components, hp => by
    refine ⟨_, List.mem_singleton_self _, ?_⟩
    rcases List.mem_cons.mp hp with rfl | hp
    · exact ⟨[], rfl⟩
    · obtain ⟨sub, -, tail, hpath⟩ := exists_path_of_mem components hp
      exact ⟨sub.slot :: tail, by rw [hpath, List.append_assoc, List.singleton_append]⟩

theorem exists_path_of_mem {p : Place} {above : List Nat} : (l : List Component) →
    p ∈ placesOf above l → ∃ sub ∈ subFetchesOf l, ∃ tail, p.path = above ++ sub.slot :: tail
  | c :: rest, hp => by
    rcases List.mem_append.mp hp with hp | hp
    · obtain ⟨sub, hsub, htail⟩ := c.exists_path_of_mem hp
      exact ⟨sub, List.mem_append_left _ hsub, htail⟩
    · obtain ⟨sub, hsub, htail⟩ := exists_path_of_mem rest hp
      exact ⟨sub, List.mem_append_right _ hsub, htail⟩

end

namespace Plan

variable {namespaceName : Option String} {aliasName : String} {fields : List Field} {e e' : Emission}
  {components : List Component}

theorem Emits.slot_bounds (h : Emits namespaceName aliasName fields e components e') {sub : SubFetch}
    (hsub : sub ∈ subFetchesOf components) : e.subFetches ≤ sub.slot ∧ sub.slot < e'.subFetches := by
  have hslot : sub.slot ∈ (subFetchesOf components).map SubFetch.slot := List.mem_map_of_mem hsub
  have hslots := h.slots
  have hnodup : (List.range e'.subFetches).Nodup := List.nodup_range
  constructor
  · rw [← hslots] at hnodup
    by_contra hlt
    exact List.disjoint_of_nodup_append hnodup (List.mem_range.mpr (not_le.mp hlt)) hslot
  · rw [← List.mem_range, ← hslots]
    exact List.mem_append_right _ hslot

theorem Emits.pairwise_places (h : Emits namespaceName aliasName fields e components e')
    (above : List Nat) : (placesOf above components).Pairwise fun p p' => p.path < p'.path := by
  induction h generalizing above with
  | nil => exact .nil
  | scalar _ ih => exact ih above
  | one hchildren hrest ihchildren ih =>
    refine List.pairwise_append.mpr ⟨ihchildren above, ih above, ?_⟩
    intro p hp p' hp'
    obtain ⟨sub, hsub, tail, hpath⟩ := exists_path_of_mem _ hp
    obtain ⟨sub', hsub', tail', hpath'⟩ := exists_path_of_mem _ hp'
    rw [hpath, hpath']
    apply path_lt_path
    exact (hchildren.slot_bounds hsub).2.trans_le (hrest.slot_bounds hsub').1
  | many _ hrest ihchildren ih =>
    refine List.pairwise_append.mpr ⟨List.pairwise_cons.mpr ⟨?_, ihchildren _⟩, ih above, ?_⟩
    · intro p hp
      obtain ⟨sub, -, tail, hpath⟩ := exists_path_of_mem _ hp
      rw [hpath]
      exact path_lt_append _ _ _
    · intro p hp p' hp'
      obtain ⟨sub, hsub, tail, hpath⟩ := Component.exists_path_of_mem _ hp
      obtain ⟨sub', hsub', tail', hpath'⟩ := exists_path_of_mem _ hp'
      obtain rfl := List.mem_singleton.mp hsub
      have hle := (hrest.slot_bounds hsub').1
      rw [Emission.after, Emission.subFetches_select] at hle
      rw [hpath, hpath']
      exact path_lt_path hle

theorem Emits.exists_filter (h : Emits namespaceName aliasName fields e components e')
    (above : List Nat) : ∀ p ∈ placesOf above components, ∃ c, p.statement.fetch.filter = some c := by
  induction h generalizing above with
  | nil => simp [placesOf]
  | scalar _ ih => exact ih above
  | one _ _ ihchildren ih =>
    intro p hp
    rcases List.mem_append.mp hp with hp | hp
    · exact ihchildren above p hp
    · exact ih above p hp
  | many _ _ ihchildren ih =>
    intro p hp
    rcases List.mem_append.mp hp with hp | hp
    · rcases List.mem_cons.mp hp with rfl | hp
      · exact ⟨_, rfl⟩
      · exact ihchildren _ p hp
    · exact ih above p hp

end Plan

namespace CompiledQuery

variable {g : TypeGraph} {sel : Selection} {namespaceName : Option String} {q : CompiledQuery}
  (hq : CompiledQuery.of g sel namespaceName = .ok q)

include hq

theorem exists_emits : ∃ fields e, q.statement.fetch.filter = none ∧
    Plan.Emits namespaceName (aliasOf 0) fields (.start 1 none) q.statement.components e := by
  obtain ⟨p, -, heq⟩ := bind_eq_ok_iff.mp hq
  obtain rfl := Except.ok.inj heq
  exact ⟨p.fields, _, rfl, Plan.emits_emitFields p.fields⟩

/-- **The order of the statements.** The paths ascend, so that no two statements stand at one place. -/
theorem pairwise_places : q.places.Pairwise fun p p' => p.path < p'.path := by
  obtain ⟨fields, e, -, hemits⟩ := exists_emits hq
  refine List.pairwise_cons.mpr ⟨?_, hemits.pairwise_places []⟩
  intro p hp
  obtain ⟨sub, -, tail, hpath⟩ := exists_path_of_mem _ hp
  rw [hpath]
  exact path_lt_append [] sub.slot tail

/-- The root is restricted to nothing, and every other statement to the values of a column. -/
theorem filter_top : q.top.statement.fetch.filter = none := by
  obtain ⟨fields, e, hfilter, -⟩ := exists_emits hq
  exact hfilter

theorem exists_filter_of_mem {p : Place} (hp : p ∈ placesOf [] q.statement.components) :
    ∃ c, p.statement.fetch.filter = some c := by
  obtain ⟨fields, e, -, hemits⟩ := exists_emits hq
  exact hemits.exists_filter [] p hp

end CompiledQuery

end NestedRows
