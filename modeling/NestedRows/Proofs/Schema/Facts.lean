import NestedRows.Schema.Draft
import NestedRows.Proofs.Schema.Merge
import Mathlib.Data.Set.Lattice
/-!
# What a draft holds

A draft that was filled without an error holds, for every column that was mentioned, the definition
that gathers all that was said of it, and nothing else (`Draft.Holds`). A way of filling a draft is
described by what it says and by when it is valid (`Draft.Adds`): it fails exactly if it is not valid
or contradicts what was said before. Such descriptions are closed under repetition
(`Draft.Adds.stepAll`), so each way of filling a draft is described in terms of the way below it.
-/

namespace NestedRows

namespace Key

def about (facts : Set Key) (name : QualifiedName) : Set Key := {f | f ∈ facts ∧ f.name = name}

/-- Definitions of which no two contradict each other. -/
def Agree (facts : Set Key) : Prop :=
  ∀ f ∈ facts, ∀ g ∈ facts, f.name = g.name → f.Compatible g

theorem Agree.mono {F G : Set Key} (h : Agree G) (hFG : F ⊆ G) : Agree F :=
  fun f hf g hg => h f (hFG hf) g (hFG hg)

/-- A definition can be merged with what was gathered if it can be merged with each part of it. -/
theorem Gathers.compatible_iff {k k' : Key} {facts : Set Key} (h : k.Gathers facts)
    (hne : facts.Nonempty) : k.Compatible k' ↔ ∀ f ∈ facts, f.Compatible k' := by
  constructor
  · intro hc f hf
    refine ⟨(h.name f hf).trans hc.name, (h.fieldType f hf).trans hc.fieldType, ?_⟩
    intro p q hp hq
    exact hc.referencing ((h.referencing p).mpr ⟨f, hf, hp⟩) hq
  · intro hall
    obtain ⟨f, hf⟩ := hne
    refine ⟨(h.name f hf).symm.trans (hall f hf).name,
      (h.fieldType f hf).symm.trans (hall f hf).fieldType, ?_⟩
    intro p q hp hq
    obtain ⟨g, hg, hgp⟩ := (h.referencing p).mp hp
    exact (hall g hg).referencing hgp hq

/-- Definitions that were gathered do not contradict each other. -/
theorem Gathers.compatible {k f g : Key} {facts : Set Key} (h : k.Gathers facts) (hf : f ∈ facts)
    (hg : g ∈ facts) : f.Compatible g := by
  refine ⟨(h.name f hf).trans (h.name g hg).symm, (h.fieldType f hf).trans (h.fieldType g hg).symm, ?_⟩
  intro p q hp hq
  have hkp := (h.referencing p).mpr ⟨f, hf, hp⟩
  have hkq := (h.referencing q).mpr ⟨g, hg, hq⟩
  exact Option.some.inj (hkp.symm.trans hkq)

theorem Gathers.agree {k : Key} {facts : Set Key} (h : k.Gathers facts) : Agree facts :=
  fun _ hf _ hg _ => h.compatible hf hg

end Key

namespace Draft

def key? (d : Draft) (table column : String) : Option Key := (d.columns table).get? column

def put (d : Draft) (k : Key) : Draft :=
  ⟨d.tables.insert k.name.table
    (((d.columns k.name.table).erase k.name.column).insert k.name.column k)⟩

theorem columns_put_self (d : Draft) (k : Key) : (d.put k).columns k.name.table
    = ((d.columns k.name.table).erase k.name.column).insert k.name.column k := by
  rw [columns, put, SortedMap.get?_insert_self, Option.getD_some]

theorem columns_put_of_ne (d : Draft) {k : Key} {table : String} (h : table ≠ k.name.table) :
    (d.put k).columns table = d.columns table := by
  rw [columns, put, SortedMap.get?_insert_of_ne _ _ h, columns]

theorem key?_put_self (d : Draft) (k : Key) :
    (d.put k).key? k.name.table k.name.column = some k := by
  rw [key?, columns_put_self, SortedMap.get?_insert_self]

theorem key?_put_of_ne (d : Draft) {k : Key} {table column : String}
    (h : ¬ (table = k.name.table ∧ column = k.name.column)) :
    (d.put k).key? table column = d.key? table column := by
  by_cases htable : table = k.name.table
  · have hcolumn : column ≠ k.name.column := fun hc => h ⟨htable, hc⟩
    rw [htable, key?, columns_put_self, SortedMap.get?_insert_of_ne _ _ hcolumn,
      SortedMap.get?_erase_of_ne _ hcolumn, key?]
  · rw [key?, columns_put_of_ne _ htable, key?]

theorem mergeKey_of_none {d : Draft} {k : Key} (h : d.key? k.name.table k.name.column = none) :
    d.mergeKey k = (d.put k, none) := by
  rw [key?] at h
  rw [mergeKey, h]
  rfl

theorem mergeKey_of_ok {d : Draft} {k j m : Key} (h : d.key? k.name.table k.name.column = some j)
    (hm : j.merge k = .ok m) (hname : m.name = k.name) : d.mergeKey k = (d.put m, none) := by
  rw [key?] at h
  simp only [mergeKey, h, hm, put, hname]

theorem mergeKey_of_error {d : Draft} {k j : Key} {e : SchemaError}
    (h : d.key? k.name.table k.name.column = some j) (hm : j.merge k = .error e) :
    ∃ d', d.mergeKey k = (d', some e) := by
  rw [key?] at h
  simp only [mergeKey, h, hm]
  exact ⟨_, rfl⟩

/-- The draft knows of each column what all of `facts` say about it, and of no other column. -/
structure Holds (d : Draft) (facts : Set Key) : Prop where
  name : ∀ {table column k}, d.key? table column = some k →
    k.name.table = table ∧ k.name.column = column
  gathers : ∀ {table column k}, d.key? table column = some k →
    (Key.about facts k.name).Nonempty ∧ k.Gathers (Key.about facts k.name)
  complete : ∀ f ∈ facts, ∃ k, d.key? f.name.table f.name.column = some k
  inhabited : ∀ {table columns}, d.tables.get? table = some columns →
    ∃ column k, columns.get? column = some k

theorem holds_empty : Holds {} ∅ where
  name h := nomatch h
  gathers h := nomatch h
  complete _ hf := hf.elim
  inhabited h := nomatch h

theorem Holds.key?_name {d : Draft} {facts : Set Key} (h : d.Holds facts) {k : Key}
    {name : QualifiedName} (hk : d.key? name.table name.column = some k) : k.name = name := by
  obtain ⟨htable, hcolumn⟩ := h.name hk
  cases hn : k.name
  cases name
  simp_all

theorem Holds.agree {d : Draft} {facts : Set Key} (h : d.Holds facts) : Key.Agree facts := by
  intro f hf g hg hname
  obtain ⟨k, hk⟩ := h.complete f hf
  have hkf : f.name = k.name := (h.key?_name hk).symm
  exact (h.gathers hk).2.agree f ⟨hf, hkf⟩ g ⟨hg, hname.symm.trans hkf⟩ hname

theorem Holds.put {d : Draft} {facts : Set Key} (h : d.Holds facts) {f k : Key} (hname : k.name = f.name)
    (hk : k.Gathers (Key.about (facts ∪ {f}) f.name)) : (d.put k).Holds (facts ∪ {f}) := by
  have hsplit : ∀ {table column j}, (d.put k).key? table column = some j →
      j = k ∧ table = k.name.table ∧ column = k.name.column ∨
        j.name ≠ k.name ∧ d.key? table column = some j := by
    intro table column j hj
    by_cases hat : table = k.name.table ∧ column = k.name.column
    · rw [hat.1, hat.2, key?_put_self] at hj
      exact .inl ⟨(Option.some.inj hj).symm, hat⟩
    · rw [key?_put_of_ne _ hat] at hj
      obtain ⟨htable, hcolumn⟩ := h.name hj
      refine .inr ⟨fun he => hat ?_, hj⟩
      rw [← htable, ← hcolumn, he]
      exact ⟨rfl, rfl⟩
  constructor
  · intro table column j hj
    rcases hsplit hj with ⟨rfl, htable, hcolumn⟩ | ⟨-, hold⟩
    · exact ⟨htable.symm, hcolumn.symm⟩
    · exact h.name hold
  · intro table column j hj
    rcases hsplit hj with ⟨rfl, -, -⟩ | ⟨hne, hold⟩
    · rw [hname]
      exact ⟨⟨f, .inr rfl, rfl⟩, hk⟩
    · have hsame : Key.about (facts ∪ {f}) j.name = Key.about facts j.name := by
        ext g
        constructor
        · rintro ⟨hg | rfl, hgj⟩
          · exact ⟨hg, hgj⟩
          · exact absurd (hgj.symm.trans hname.symm) hne
        · exact fun hg => ⟨.inl hg.1, hg.2⟩
      rw [hsame]
      exact h.gathers hold
  · intro g hg
    by_cases hat : g.name.table = k.name.table ∧ g.name.column = k.name.column
    · rw [hat.1, hat.2]
      exact ⟨k, key?_put_self d k⟩
    · rw [key?_put_of_ne _ hat]
      rcases hg with hg | rfl
      · exact h.complete g hg
      · exact absurd ⟨hname ▸ rfl, hname ▸ rfl⟩ hat
  · intro table columns hcolumns
    by_cases htable : table = k.name.table
    · rw [htable, Draft.put, SortedMap.get?_insert_self] at hcolumns
      obtain rfl := Option.some.inj hcolumns
      exact ⟨k.name.column, k, SortedMap.get?_insert_self ..⟩
    · rw [Draft.put, SortedMap.get?_insert_of_ne _ _ htable] at hcolumns
      exact h.inhabited hcolumns

/-! ### Ways of filling a draft -/

/-- The outcome of saying `facts` to a draft that holds `held`: they are held too, or they are not
valid or contradict each other. -/
def Meets (o : Outcome) (held : Set Key) (valid : Prop) (facts : Set Key) : Prop :=
  match o with
  | (d, none) => valid ∧ d.Holds (held ∪ facts)
  | (_, some _) => ¬ (valid ∧ Key.Agree (held ∪ facts))

theorem Meets.congr {o : Outcome} {held facts facts' : Set Key} {valid valid' : Prop}
    (h : Meets o held valid facts) (hvalid : valid' ↔ valid) (hfacts : valid → facts' = facts) :
    Meets o held valid' facts' := by
  rcases o with ⟨d, _ | e⟩
  · exact ⟨hvalid.mpr h.1, hfacts h.1 ▸ h.2⟩
  · rintro ⟨hv, hagree⟩
    have hv := hvalid.mp hv
    exact h ⟨hv, hfacts hv ▸ hagree⟩

/-- The step says `facts` to a draft. -/
def Adds {α : Type} (step : Draft → α → Outcome) (valid : α → Prop) (facts : α → Set Key) : Prop :=
  ∀ ⦃d : Draft⦄ ⦃held : Set Key⦄ (a : α), d.Holds held → Meets (step d a) held (valid a) (facts a)

theorem adds_mergeKey : Adds mergeKey (fun _ => True) fun k => {k} := by
  intro d held k hd
  cases hj : d.key? k.name.table k.name.column with
  | none =>
    have honly : Key.about (held ∪ {k}) k.name = {k} := by
      ext f
      constructor
      · rintro ⟨hf | hf, hname⟩
        · obtain ⟨j, hfj⟩ := hd.complete f hf
          rw [hname, hj] at hfj
          cases hfj
        · exact hf
      · rintro rfl
        exact ⟨.inr rfl, rfl⟩
    rw [mergeKey_of_none hj]
    refine ⟨trivial, hd.put rfl ?_⟩
    rw [honly]
    exact Key.gathers_singleton k
  | some j =>
    have hname := hd.key?_name hj
    obtain ⟨hne, hg⟩ := hd.gathers hj
    rw [hname] at hne hg
    cases hm : j.merge k with
    | error e =>
      obtain ⟨d', hd'⟩ := mergeKey_of_error hj hm
      rw [hd']
      rintro ⟨-, hagree⟩
      refine Key.merge_eq_error hm ((hg.compatible_iff hne).mpr fun f hf => ?_)
      exact hagree f (.inl hf.1) k (.inr rfl) hf.2
    | ok m =>
      obtain ⟨hc, rfl⟩ := Key.merge_eq_ok_iff.mp hm
      have hall : Key.about (held ∪ {k}) k.name = Key.about held k.name ∪ {k} := by
        ext f
        constructor
        · rintro ⟨hf | hf, hfk⟩
          · exact .inl ⟨hf, hfk⟩
          · exact .inr hf
        · rintro (hf | rfl)
          · exact ⟨.inl hf.1, hf.2⟩
          · exact ⟨.inr rfl, rfl⟩
      rw [mergeKey_of_ok hj hm hname]
      refine ⟨trivial, hd.put hname ?_⟩
      rw [hall]
      exact hg.joined (Key.gathers_singleton k) hc

theorem stepAll_cons_of_ok {α : Type} {step : Draft → α → Outcome} {d d' : Draft} {a : α}
    {rest : List α} (h : step d a = (d', none)) :
    Draft.stepAll step d (a :: rest) = Draft.stepAll step d' rest := by
  rw [Draft.stepAll, h]

theorem stepAll_cons_of_error {α : Type} {step : Draft → α → Outcome} {d d' : Draft} {a : α}
    {rest : List α} {e : SchemaError} (h : step d a = (d', some e)) :
    Draft.stepAll step d (a :: rest) = (d', some e) := by
  rw [Draft.stepAll, h]

/-- Steps that are taken one after the other say what each of them says. -/
theorem Adds.stepAll {α : Type} {step : Draft → α → Outcome} {valid : α → Prop} {facts : α → Set Key}
    (h : Adds step valid facts) :
    Adds (stepAll step) (fun as => ∀ a ∈ as, valid a) fun as => ⋃ a ∈ as, facts a := by
  intro d held as hd
  induction as generalizing d held with
  | nil => simpa [Draft.stepAll, Meets] using hd
  | cons a rest ih =>
    have hstep := h a hd
    have hunion : held ∪ ⋃ b ∈ a :: rest, facts b = held ∪ facts a ∪ ⋃ b ∈ rest, facts b := by
      simp [Set.union_assoc]
    rcases hs : step d a with ⟨d', _ | e⟩
    · rw [hs] at hstep
      obtain ⟨hvalid, hheld⟩ := hstep
      have hrest := ih hheld
      rw [stepAll_cons_of_ok hs]
      rcases hr : Draft.stepAll step d' rest with ⟨d'', _ | e⟩
      · rw [hr] at hrest
        exact ⟨List.forall_mem_cons.mpr ⟨hvalid, hrest.1⟩, hunion ▸ hrest.2⟩
      · rw [hr] at hrest
        exact fun hall => hrest ⟨(List.forall_mem_cons.mp hall.1).2, hunion ▸ hall.2⟩
    · rw [hs] at hstep
      rw [stepAll_cons_of_error hs]
      rintro ⟨hvalid, hagree⟩
      refine hstep ⟨hvalid a List.mem_cons_self, hagree.mono ?_⟩
      rw [hunion]
      exact Set.subset_union_left

end Draft

end NestedRows
