import NestedRows.Proofs.Query.Scoping
import NestedRows.Proofs.Query.WellTyped
/-!
# Markers leave no trace

Clients put names with two underscores in front into their selections at every level. A compiled query does
not show whether they were there: what is compiled of a selection is compiled of the selection without its
markers as well, down to the last alias, or both fail for the same reason (`CompiledQuery.of_withoutMarkers`).

One place has to be excluded. Below a scalar nothing may be selected, not even a marker, so a marker that
stands there alone is the reason why a selection is refused.
-/

namespace NestedRows

namespace Selection

/-- The selection without the markers below its outermost name, and without what is below them. -/
def withoutMarkers (sel : Selection) : Selection := .node sel.name (unmarkedOf sel.children)

/-- `s` is selected of the rows of `o`, somewhere below the outermost name of `sel`. A marker is not
selected, and neither is what is below it. -/
inductive Selects (g : TypeGraph) (sel : Selection) : ObjectType → Selection → Prop
  | top {o : ObjectType} {s : Selection} (hroot : g.object? sel.name = some o) (hs : s ∈ sel.children)
      (hmarker : Plan.isMarker s.name = false) : Selects g sel o s
  | deeper {o t : ObjectType} {s c : Selection} {f : Field} {target : String} (hs : Selects g sel o s)
      (hfield : o.fields.get? s.name = some f) (hkind : f.kind.target? = some target)
      (htarget : g.object? target = some t) (hc : c ∈ s.children)
      (hmarker : Plan.isMarker c.name = false) : Selects g sel t c

/-- No scalar field has markers alone below it. So it is if the scalar fields have nothing below them. -/
def SparesScalars (g : TypeGraph) (sel : Selection) : Prop :=
  ∀ o s f, Selects g sel o s → o.fields.get? s.name = some f → f.kind.target? = none →
    s.children = [] ∨ Plan.HasFields s.children

/-! ### What is left without markers -/

theorem unmarkedOf_eq (l : List Selection) :
    unmarkedOf l = (l.filter fun c => !Plan.isMarker c.name).map withoutMarkers := by
  induction l with
  | nil => rfl
  | cons c rest ih =>
    obtain ⟨name, children⟩ := c
    rw [unmarkedOf, unmarked, ih]
    cases hmarker : Plan.isMarker name <;> simp [hmarker, withoutMarkers, Selection.name, Selection.children]

theorem hasFields_unmarkedOf {l : List Selection} : Plan.HasFields (unmarkedOf l) ↔ Plan.HasFields l := by
  rw [Plan.HasFields, unmarkedOf_eq]
  constructor
  · intro h
    obtain ⟨d, hd, hmarker⟩ := h
    obtain ⟨c, hc, rfl⟩ := List.mem_map.mp hd
    exact ⟨c, List.mem_of_mem_filter hc, hmarker⟩
  · intro h
    obtain ⟨c, hc, hmarker⟩ := h
    refine ⟨c.withoutMarkers, List.mem_map_of_mem (List.mem_filter.mpr ⟨hc, ?_⟩), hmarker⟩
    rw [hmarker]
    rfl

theorem isEmpty_unmarkedOf {l : List Selection} (h : l = [] ∨ Plan.HasFields l) :
    (unmarkedOf l).isEmpty = l.isEmpty := by
  rcases h with rfl | hfields
  · rfl
  · have hne : ∀ {m : List Selection}, Plan.HasFields m → m.isEmpty = false := by
      intro m hm
      obtain ⟨c, hc, _⟩ := hm
      exact List.isEmpty_eq_false_iff.mpr (List.ne_nil_of_mem hc)
    rw [hne hfields, hne (hasFields_unmarkedOf.mpr hfields)]

/-! ### Scalars of accepted selections -/

theorem Selects.isMarker_eq {g : TypeGraph} {sel s : Selection} {o : ObjectType} (h : Selects g sel o s) :
    Plan.isMarker s.name = false := by
  cases h with
  | top _ _ hmarker => exact hmarker
  | deeper _ _ _ _ _ hmarker => exact hmarker

/-- A field that is rightly selected is a scalar with nothing below it, or it leads to rows of which everything
below it is rightly selected. -/
theorem Selects.field_cases {g : TypeGraph} {sel s : Selection} {o : ObjectType} {f : Field}
    (hs : Selects g sel o s) (hfield : o.fields.get? s.name = some f) (h : WellTyped g o s) :
    (f.kind.target? = none ∧ s.children = []) ∨ ∃ target t, f.kind.target? = some target ∧
      g.object? target = some t ∧ ∀ c ∈ s.children, WellTyped g t c := by
  cases h with
  | marker hmarker => exact absurd hmarker (Bool.eq_false_iff.mp hs.isMarker_eq)
  | scalar hfield' hkind =>
    obtain rfl := Option.some.inj (hfield.symm.trans hfield')
    exact .inl ⟨hkind, rfl⟩
  | reference hfield' hkind htarget _ hchildren =>
    obtain rfl := Option.some.inj (hfield.symm.trans hfield')
    exact .inr ⟨_, _, hkind, htarget, hchildren⟩

theorem Accepted.wellTyped {g : TypeGraph} {sel s : Selection} {o : ObjectType} (h : sel.Accepted g)
    (hs : Selects g sel o s) : WellTyped g o s := by
  induction hs with
  | top hroot hs _ =>
    obtain ⟨o', hroot', _, hchildren⟩ := h
    obtain rfl := Option.some.inj (hroot.symm.trans hroot')
    exact hchildren _ hs
  | deeper hs hfield hkind htarget hc _ ih =>
    rcases hs.field_cases hfield ih with ⟨hnone, _⟩ | ⟨target', t', hkind', htarget', hchildren⟩
    · rw [hkind] at hnone
      cases hnone
    · obtain rfl := Option.some.inj (hkind.symm.trans hkind')
      obtain rfl := Option.some.inj (htarget.symm.trans htarget')
      exact hchildren _ hc

/-- What is accepted has nothing below its scalars. -/
theorem Accepted.sparesScalars {g : TypeGraph} {sel : Selection} (h : sel.Accepted g) :
    sel.SparesScalars g := by
  intro o s f hs hfield hkind
  rcases hs.field_cases hfield (h.wellTyped hs) with ⟨_, hchildren⟩ | ⟨target, t, hsome, _⟩
  · exact .inl hchildren
  · rw [hkind] at hsome
    cases hsome

end Selection

/-! ### Plans without markers -/

namespace Plan

theorem requireFields_unmarkedOf (o : ObjectType) (name : String) (children : List Selection) :
    requireFields o name (unmarkedOf children) = requireFields o name children := by
  have hany : ∀ l : List Selection, (l.any fun s => !isMarker s.name) = true ↔ HasFields l := by
    simp [HasFields]
  have hiff := (hany _).trans (Selection.hasFields_unmarkedOf.trans (hany children).symm)
  rw [requireFields, requireFields, Bool.eq_iff_iff.mpr hiff]

mutual

theorem ofSelections_unmarked {g : TypeGraph} {sel : Selection} (hsel : sel.SparesScalars g) :
    (s : Selection) → {o : ObjectType} → (isMarker s.name = false → sel.Selects g o s) →
    (l : List Selection) → ofSelections g o (s.unmarked ++ l) = ofSelections g o (s :: l)
  | .node name children, o, hs, l => by
    rw [Selection.unmarked, ofSelections]
    cases hmarker : isMarker name with
    | true =>
      rw [if_pos rfl, List.nil_append, ofSelection, if_pos hmarker]
      cases ofSelections g o l <;> rfl
    | false =>
      have hselects := hs hmarker
      rw [if_neg Bool.false_ne_true, List.singleton_append, ofSelections]
      congr 1
      rw [ofSelection, ofSelection, hmarker, if_neg Bool.false_ne_true, if_neg Bool.false_ne_true]
      cases hfield : o.fields.get? name with
      | none => rfl
      | some f =>
        have hbelow : ∀ {target t}, f.kind.target? = some target → targetOf g target = .ok t →
            ofSelections g t (unmarkedOf children) = ofSelections g t children := by
          intro target t hkind htarget
          apply ofSelections_unmarkedOf hsel children
          intro c hc
          exact .deeper hselects hfield hkind (targetOf_eq_ok_iff.mp htarget) hc
        cases hkind : f.kind with
        | scalar column fieldType =>
          have hspared := hsel _ _ _ hselects hfield (by rw [hkind]; rfl)
          have hempty : (unmarkedOf children).isEmpty = children.isEmpty :=
            Selection.isEmpty_unmarkedOf hspared
          simp only [hkind, hempty]
        | one target localKey remoteKey =>
          simp only [hkind]
          cases htarget : targetOf g target with
          | error e => rfl
          | ok t => simp only [requireFields_unmarkedOf, hbelow (by rw [hkind]; rfl) htarget, bind, Except.bind]
        | many target localKey remoteKey =>
          simp only [hkind]
          cases htarget : targetOf g target with
          | error e => rfl
          | ok t => simp only [requireFields_unmarkedOf, hbelow (by rw [hkind]; rfl) htarget, bind, Except.bind]

theorem ofSelections_unmarkedOf {g : TypeGraph} {sel : Selection} (hsel : sel.SparesScalars g) :
    (l : List Selection) → {o : ObjectType} → (∀ c ∈ l, isMarker c.name = false → sel.Selects g o c) →
    ofSelections g o (unmarkedOf l) = ofSelections g o l
  | [], _, _ => rfl
  | c :: rest, o, hl => by
    have hfirst := ofSelections_unmarked hsel c (hl c List.mem_cons_self) (unmarkedOf rest)
    have hrest := ofSelections_unmarkedOf hsel rest fun d hd => hl d (List.mem_cons_of_mem _ hd)
    rw [unmarkedOf, hfirst, ofSelections, ofSelections, hrest]

end

theorem of_unmarked {g : TypeGraph} {sel : Selection} (hsel : sel.SparesScalars g) :
    of g sel.withoutMarkers = of g sel := by
  have hname : sel.withoutMarkers.name = sel.name := rfl
  have hchildren : sel.withoutMarkers.children = unmarkedOf sel.children := rfl
  rw [of, of, hname, hchildren]
  cases hroot : g.object? sel.name with
  | none => rfl
  | some o =>
    have hfields := ofSelections_unmarkedOf hsel sel.children fun c hc => .top hroot hc
    simp only [requireFields_unmarkedOf, hfields]

end Plan

/-- **Markers leave no trace.** A selection and the selection without its markers compile to the same query,
with all its statements, or fail with the same error, whatever the type graph is. -/
theorem CompiledQuery.of_withoutMarkers {g : TypeGraph} {sel : Selection} (hsel : sel.SparesScalars g)
    (namespaceName : Option String) :
    CompiledQuery.of g sel.withoutMarkers namespaceName = CompiledQuery.of g sel namespaceName := by
  rw [CompiledQuery.of, CompiledQuery.of, Plan.of_unmarked hsel]
  rfl

/-- The selection of orders with markers at every level, some with fields below them. -/
def markedSelection : Selection := .node "orders" [
  .node "__typename" [],
  .node "id" [],
  .node "customer_id" [
    .node "__typename" [.node "unheard_of" [.node "__deep" []]],
    .node "email" [],
    .node "customers_on_referrer_id" [
      .node "__typename" [],
      .node "orders_on_customer_id" [.node "__first" [.node "id" []], .node "id" [], .node "__last" []]],
    .node "__cursor" [],
    .node "referrer_id" [.node "email" []]]]

theorem CompiledQuery.of_withoutMarkers_orders : ∃ s g q, Schema.ofTables Schema.shopTables = .ok s ∧
    TypeGraph.ofSchema s = .ok g ∧ markedSelection.SparesScalars g ∧
    CompiledQuery.of g markedSelection none = .ok q ∧
    CompiledQuery.of g markedSelection.withoutMarkers none = .ok q ∧
    (q.statement.tree.flatMap Statement.aliases).length = 5 := by
  have htest : ((Schema.ofTables Schema.shopTables).toOption.any fun s =>
      (TypeGraph.ofSchema s).toOption.any fun g =>
        (CompiledQuery.of g markedSelection none).toOption.any fun q =>
          decide ((q.statement.tree.flatMap Statement.aliases).length = 5)) = true := by
    decide +kernel
  obtain ⟨s, g, q, hs, hg, hq, hlength⟩ := exists_of_test htest
  have hreports := Plan.reports_compiled (Schema.wellFormed_of_ofTables hs) hg markedSelection none
  rw [hq] at hreports
  have hspares := (Selection.violations_eq_nil_iff.mp hreports).sparesScalars
  exact ⟨s, g, q, hs, hg, hspares, hq, (of_withoutMarkers hspares none).trans hq, of_decide_eq_true hlength⟩

end NestedRows
