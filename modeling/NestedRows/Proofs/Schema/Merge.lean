import NestedRows.Schema.Key
import NestedRows.Proofs.SortedMap
import Mathlib.Data.Set.Insert
import Mathlib.Tactic.Tauto
/-!
# What merged definitions say

Merging succeeds for compatible definitions only (`Key.merge_eq_ok_iff`), and then the result gathers
what both sides say: `Key.Gathers` states it for any number of definitions at once, without an order
among them. So nothing that is read off `Gathers` can depend on the order of the merges.
-/

namespace NestedRows

namespace Key

/-- Two definitions that do not contradict each other. -/
structure Compatible (a b : Key) : Prop where
  name : a.name = b.name
  fieldType : a.fieldType = b.fieldType
  referencing : ∀ ⦃p q : QualifiedName⦄, a.referencing = some p → b.referencing = some q → p = q

theorem Compatible.refl (a : Key) : a.Compatible a :=
  ⟨rfl, rfl, fun _ _ hp hq => Option.some.inj (hp.symm.trans hq)⟩

theorem Compatible.symm {a b : Key} (h : a.Compatible b) : b.Compatible a :=
  ⟨h.name.symm, h.fieldType.symm, fun _ _ hp hq => (h.referencing hq hp).symm⟩

def joined (a b : Key) : Key where
  name := a.name
  fieldType := a.fieldType
  nullable :=
    if a.declared = b.declared then a.nullable && b.nullable
    else if a.declared then a.nullable else b.nullable
  primaryKey :=
    if a.declared = b.declared then a.primaryKey || b.primaryKey
    else if a.declared then a.primaryKey else b.primaryKey
  referencing := a.referencing.or b.referencing
  referencedBy := a.referencedBy.union b.referencedBy
  declared := a.declared || b.declared

theorem mergeReferences_eq_ok_iff {name : QualifiedName} {r s t : Option QualifiedName} :
    mergeReferences name r s = .ok t ↔
      (∀ p q, r = some p → s = some q → p = q) ∧ t = r.or s := by
  cases r with
  | none => simp [mergeReferences, eq_comm]
  | some p =>
    cases s with
    | none => simp [mergeReferences, eq_comm]
    | some q =>
      by_cases hpq : p = q
      · simp [mergeReferences, hpq, eq_comm]
      · simp [mergeReferences, hpq]

theorem merge_eq_ok_iff {a b m : Key} : a.merge b = .ok m ↔ a.Compatible b ∧ m = a.joined b := by
  rw [merge]
  by_cases hname : a.name = b.name
  · by_cases htype : a.fieldType = b.fieldType
    · rw [if_neg (not_not_intro hname), if_neg (not_not_intro htype)]
      cases hrefs : mergeReferences a.name a.referencing b.referencing with
      | error e =>
        have hno : ¬ a.Compatible b := by
          intro hc
          rw [mergeReferences_eq_ok_iff.mpr ⟨hc.referencing, rfl⟩] at hrefs
          cases hrefs
        simp [hno, bind, Except.bind]
      | ok t =>
        obtain ⟨hpq, rfl⟩ := mergeReferences_eq_ok_iff.mp hrefs
        have hc : a.Compatible b := ⟨hname, htype, hpq⟩
        simp only [hc, true_and, bind, Except.bind, pure, Except.pure, Except.ok.injEq, joined]
        rw [eq_comm]
        cases a.declared <;> cases b.declared <;> simp
    · have hno : ¬ a.Compatible b := fun hc => htype hc.fieldType
      simp [hname, htype, hno]
  · have hno : ¬ a.Compatible b := fun hc => hname hc.name
    simp [hname, hno]

theorem merge_eq_error {a b : Key} {e : SchemaError} (h : a.merge b = .error e) :
    ¬ a.Compatible b := by
  intro hc
  rw [merge_eq_ok_iff.mpr ⟨hc, rfl⟩] at h
  cases h

/-! ### Many definitions at once -/

/-- `k` says of its column what the definitions `facts` say of it together: the declared ones decide
about null and the primary key, unless there are none, and all references are kept. -/
structure Gathers (k : Key) (facts : Set Key) : Prop where
  name : ∀ f ∈ facts, f.name = k.name
  fieldType : ∀ f ∈ facts, f.fieldType = k.fieldType
  declared : k.declared = true ↔ ∃ f ∈ facts, f.declared = true
  nullable : k.nullable = true ↔ ∀ f ∈ facts, f.declared = k.declared → f.nullable = true
  primaryKey : k.primaryKey = true ↔ ∃ f ∈ facts, f.declared = k.declared ∧ f.primaryKey = true
  referencing : ∀ p, k.referencing = some p ↔ ∃ f ∈ facts, f.referencing = some p
  referencedBy : ∀ m, m ∈ k.referencedBy ↔ ∃ f ∈ facts, m ∈ f.referencedBy

theorem gathers_singleton (k : Key) : k.Gathers {k} := by
  constructor <;> simp

/-- There is only one way to say what some definitions say together. -/
theorem Gathers.unique {k k' : Key} {facts : Set Key} (h : k.Gathers facts) (h' : k'.Gathers facts)
    (hne : facts.Nonempty) : k = k' := by
  obtain ⟨f, hf⟩ := hne
  have hname : k.name = k'.name := (h.name f hf).symm.trans (h'.name f hf)
  have htype : k.fieldType = k'.fieldType := (h.fieldType f hf).symm.trans (h'.fieldType f hf)
  have hdeclared : k.declared = k'.declared :=
    Bool.eq_iff_iff.mpr (h.declared.trans h'.declared.symm)
  have hnullable : k.nullable = k'.nullable := by
    apply Bool.eq_iff_iff.mpr
    rw [h.nullable, h'.nullable, hdeclared]
  have hprimaryKey : k.primaryKey = k'.primaryKey := by
    apply Bool.eq_iff_iff.mpr
    rw [h.primaryKey, h'.primaryKey, hdeclared]
  have hreferencing : k.referencing = k'.referencing :=
    Option.ext fun p => (h.referencing p).trans (h'.referencing p).symm
  have hreferencedBy : k.referencedBy = k'.referencedBy :=
    SortedSet.ext_mem fun m => (h.referencedBy m).trans (h'.referencedBy m).symm
  cases k
  cases k'
  simp_all

/-- Where nothing is declared, no definition is. -/
theorem Gathers.not_declared {k f : Key} {facts : Set Key} (h : k.Gathers facts)
    (hk : k.declared = false) (hf : f ∈ facts) : f.declared = false := by
  by_contra hd
  rw [Bool.not_eq_false] at hd
  have := h.declared.mpr ⟨f, hf, hd⟩
  rw [hk] at this
  cases this

theorem Gathers.joined {a b : Key} {F G : Set Key} (ha : a.Gathers F) (hb : b.Gathers G)
    (hc : a.Compatible b) : (a.joined b).Gathers (F ∪ G) where
  name f hf := by
    rcases hf with hf | hf
    · exact ha.name f hf
    · exact (hb.name f hf).trans hc.name.symm
  fieldType f hf := by
    rcases hf with hf | hf
    · exact ha.fieldType f hf
    · exact (hb.fieldType f hf).trans hc.fieldType.symm
  declared := by
    simp only [Key.joined, Bool.or_eq_true, ha.declared, hb.declared, Set.mem_union, or_and_right,
      exists_or]
  nullable := by
    simp only [Key.joined, Set.mem_union, or_imp, forall_and]
    cases had : a.declared <;> cases hbd : b.declared
    · simp [ha.nullable, hb.nullable, had, hbd]
    · have hF : ∀ f ∈ F, f.declared = false := fun f hf => ha.not_declared had hf
      simpa [hb.nullable, hbd] using fun _ f hf hd => absurd ((hF f hf).symm.trans hd) (by simp)
    · have hG : ∀ f ∈ G, f.declared = false := fun f hf => hb.not_declared hbd hf
      simpa [ha.nullable, had] using fun _ f hf hd => absurd ((hG f hf).symm.trans hd) (by simp)
    · simp [ha.nullable, hb.nullable, had, hbd]
  primaryKey := by
    simp only [Key.joined, Set.mem_union, or_and_right, exists_or]
    cases had : a.declared <;> cases hbd : b.declared
    · simp [ha.primaryKey, hb.primaryKey, had, hbd]
    · have hF : ∀ f ∈ F, f.declared = false := fun f hf => ha.not_declared had hf
      simpa [hb.primaryKey, hbd] using fun f hf hd => absurd ((hF f hf).symm.trans hd) (by simp)
    · have hG : ∀ f ∈ G, f.declared = false := fun f hf => hb.not_declared hbd hf
      simpa [ha.primaryKey, had] using fun f hf hd => absurd ((hG f hf).symm.trans hd) (by simp)
    · simp [ha.primaryKey, hb.primaryKey, had, hbd]
  referencing p := by
    simp only [Key.joined, Set.mem_union, or_and_right, exists_or, ← ha.referencing, ← hb.referencing]
    cases hr : a.referencing with
    | none => simp
    | some q =>
      simp only [Option.some_or, Option.some.injEq]
      exact ⟨.inl, fun h => h.elim id fun hp => hc.referencing hr hp⟩
  referencedBy m := by
    simp only [Key.joined, SortedSet.mem_union, ha.referencedBy, hb.referencedBy, Set.mem_union,
      or_and_right, exists_or]

end Key

end NestedRows
