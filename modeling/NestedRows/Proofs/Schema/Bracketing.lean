import NestedRows.Proofs.Schema.Facts
/-!
# Merging in any order

Definitions of a column are merged two at a time, and whether this succeeds and what comes of it depends
on the definitions alone, not on their order or on which are merged first (`Key.Merging.lawful`). For
whatever comes of it gathers the definitions (`Key.Merging.run_eq_ok_iff`), and that is said of a set.
-/

namespace NestedRows

namespace Key

/-- A way of merging definitions two at a time. -/
inductive Merging where
  | single (k : Key)
  | both (left right : Merging)

namespace Merging

/-- The definitions that are merged, from left to right. -/
def keys : Merging → List Key
  | single k => [k]
  | both left right => left.keys ++ right.keys

def run : Merging → Except SchemaError Key
  | single k => .ok k
  | both left right => do (← left.run).merge (← right.run)

theorem keys_ne_nil (t : Merging) : t.keys ≠ [] := by
  induction t with
  | single k => exact List.cons_ne_nil _ _
  | both left right ihl _ => exact fun h => ihl (List.append_eq_nil_iff.mp h).1

theorem run_both_eq_ok_iff {left right : Merging} {m : Key} :
    (both left right).run = .ok m ↔
      ∃ a b, left.run = .ok a ∧ right.run = .ok b ∧ a.Compatible b ∧ m = a.joined b := by
  rw [run]
  cases left.run with
  | error e => simp [bind, Except.bind]
  | ok a =>
    cases right.run with
    | error e => simp [bind, Except.bind]
    | ok b => simp [bind, Except.bind, merge_eq_ok_iff]

theorem gathers_of_run {t : Merging} {m : Key} (h : t.run = .ok m) : m.Gathers {k | k ∈ t.keys} := by
  induction t generalizing m with
  | single k =>
    obtain rfl := Except.ok.inj h
    simpa [keys] using gathers_singleton k
  | both left right ihl ihr =>
    obtain ⟨a, b, ha, hb, hc, rfl⟩ := run_both_eq_ok_iff.mp h
    have hall : {k | k ∈ (both left right).keys} = {k | k ∈ left.keys} ∪ {k | k ∈ right.keys} := by
      ext k
      exact List.mem_append
    rw [hall]
    exact (ihl ha).joined (ihr hb) hc

theorem exists_run_of_compatible {t : Merging} (h : ∀ a ∈ t.keys, ∀ b ∈ t.keys, a.Compatible b) :
    ∃ m, t.run = .ok m := by
  induction t with
  | single k => exact ⟨k, rfl⟩
  | both left right ihl ihr =>
    obtain ⟨a, ha⟩ := ihl fun a ha b hb => h a (List.mem_append_left _ ha) b (List.mem_append_left _ hb)
    obtain ⟨b, hb⟩ := ihr fun a ha b hb => h a (List.mem_append_right _ ha) b (List.mem_append_right _ hb)
    have hl := gathers_of_run ha
    have hr := gathers_of_run hb
    -- what was gathered on the two sides does not contradict because no two of the definitions do
    have hc : a.Compatible b := by
      apply (hl.compatible_iff (List.exists_mem_of_ne_nil _ left.keys_ne_nil)).mpr
      intro f hf
      apply Compatible.symm
      apply (hr.compatible_iff (List.exists_mem_of_ne_nil _ right.keys_ne_nil)).mpr
      intro g hg
      exact h g (List.mem_append_right _ hg) f (List.mem_append_left _ hf)
    exact ⟨_, run_both_eq_ok_iff.mpr ⟨a, b, ha, hb, hc, rfl⟩⟩

/-- What comes of merging definitions is what gathers them. -/
theorem run_eq_ok_iff {t : Merging} {m : Key} : t.run = .ok m ↔ m.Gathers {k | k ∈ t.keys} := by
  refine ⟨gathers_of_run, fun h => ?_⟩
  obtain ⟨m', hm'⟩ := exists_run_of_compatible (t := t) fun a ha b hb => h.compatible ha hb
  have hsame := (gathers_of_run hm').unique h (List.exists_mem_of_ne_nil _ t.keys_ne_nil)
  rw [hm', hsame]

theorem exists_run_iff {t : Merging} :
    (∃ m, t.run = .ok m) ↔ ∀ a ∈ t.keys, ∀ b ∈ t.keys, a.Compatible b := by
  refine ⟨?_, exists_run_of_compatible⟩
  rintro ⟨m, hm⟩ a ha b hb
  exact (gathers_of_run hm).compatible ha hb

/-- The same definitions give the same result, in whatever order and however they are paired. -/
theorem toOption_run_congr {t u : Merging} (h : ∀ k, k ∈ t.keys ↔ k ∈ u.keys) :
    t.run.toOption = u.run.toOption := by
  have hsome : ∀ (v : Merging) (m : Key), v.run.toOption = some m ↔ m.Gathers {k | k ∈ v.keys} := by
    intro v m
    rw [← run_eq_ok_iff]
    cases v.run <;> simp [Except.toOption]
  have hsame : {k | k ∈ t.keys} = {k | k ∈ u.keys} := Set.ext h
  apply Option.ext
  intro m
  rw [hsome, hsome, hsame]

theorem toOption_merge_comm (a b : Key) : (a.merge b).toOption = (b.merge a).toOption := by
  apply toOption_run_congr (t := both (single a) (single b)) (u := both (single b) (single a))
  intro k
  exact (List.Perm.swap b a []).mem_iff

theorem toOption_merge_assoc (a b c : Key) :
    ((a.merge b).bind fun m => m.merge c).toOption = ((b.merge c).bind fun m => a.merge m).toOption := by
  have hleft : (both (both (single a) (single b)) (single c)).run
      = (a.merge b).bind fun m => m.merge c := rfl
  have hright : (both (single a) (both (single b) (single c))).run
      = (b.merge c).bind fun m => a.merge m := rfl
  rw [← hleft, ← hright]
  apply toOption_run_congr
  intro k
  exact Iff.rfl

theorem merge_self (a : Key) : a.merge a = .ok a := by
  apply (run_eq_ok_iff (t := both (single a) (single a))).mpr
  have hone : {k | k ∈ (both (single a) (single a)).keys} = {a} := by
    ext k
    simp [keys]
  rw [hone]
  exact gathers_singleton a

end Merging

/-- The definitions that decide about null and the primary key: the declared ones, or all if none is. -/
def deciding (keys : List Key) : List Key :=
  if keys.any Key.declared then keys.filter Key.declared else keys

theorem Gathers.mem_deciding_iff {m : Key} {keys : List Key} (h : m.Gathers {k | k ∈ keys}) {k : Key} :
    k ∈ deciding keys ↔ k ∈ keys ∧ k.declared = m.declared := by
  have hdeclared : keys.any Key.declared = m.declared := by
    rw [Bool.eq_iff_iff, List.any_eq_true, h.declared]
    rfl
  rw [deciding, hdeclared]
  cases hm : m.declared with
  | true => rw [if_pos rfl, List.mem_filter]
  | false =>
    rw [if_neg Bool.false_ne_true]
    exact ⟨fun hk => ⟨hk, h.not_declared hm hk⟩, And.left⟩

/-- Merging is commutative, associative and idempotent, as far as it succeeds. However definitions are
merged, this succeeds if no two contradict each other, and gives what they say together. -/
theorem Merging.lawful :
    (∀ a b : Key, (a.merge b).toOption = (b.merge a).toOption) ∧
    (∀ a b c : Key, ((a.merge b).bind fun m => m.merge c).toOption
      = ((b.merge c).bind fun m => a.merge m).toOption) ∧
    (∀ a : Key, a.merge a = .ok a) ∧
    (∀ t u : Merging, t.keys.Perm u.keys → t.run.toOption = u.run.toOption) ∧
    (∀ t : Merging, (∃ m, t.run = .ok m) ↔ ∀ a ∈ t.keys, ∀ b ∈ t.keys,
      a.name = b.name ∧ a.fieldType = b.fieldType ∧
        ∀ p q, a.referencing = some p → b.referencing = some q → p = q) ∧
    ∀ (t : Merging) (m : Key), t.run = .ok m →
      (∀ k ∈ t.keys, k.name = m.name ∧ k.fieldType = m.fieldType) ∧
      (∀ p, m.referencing = some p ↔ ∃ k ∈ t.keys, k.referencing = some p) ∧
      (∀ n, n ∈ m.referencedBy ↔ ∃ k ∈ t.keys, n ∈ k.referencedBy) ∧
      m.declared = t.keys.any Key.declared ∧
      m.nullable = (deciding t.keys).all Key.nullable ∧
      m.primaryKey = (deciding t.keys).any Key.primaryKey := by
  refine ⟨toOption_merge_comm, toOption_merge_assoc, merge_self, ?_, ?_, ?_⟩
  · intro t u hperm
    exact toOption_run_congr fun k => hperm.mem_iff
  · intro t
    rw [exists_run_iff]
    constructor
    · intro h a ha b hb
      obtain ⟨hname, htype, hreferencing⟩ := h a ha b hb
      exact ⟨hname, htype, fun p q hp hq => hreferencing hp hq⟩
    · intro h a ha b hb
      obtain ⟨hname, htype, hreferencing⟩ := h a ha b hb
      exact ⟨hname, htype, fun {p q} hp hq => hreferencing p q hp hq⟩
  · intro t m hm
    have h := gathers_of_run hm
    refine ⟨fun k hk => ⟨h.name k hk, h.fieldType k hk⟩, h.referencing, h.referencedBy, ?_, ?_, ?_⟩
    · rw [Bool.eq_iff_iff, List.any_eq_true, h.declared]
      rfl
    · rw [Bool.eq_iff_iff, List.all_eq_true, h.nullable]
      simp only [h.mem_deciding_iff, and_imp]
      rfl
    · rw [Bool.eq_iff_iff, List.any_eq_true, h.primaryKey]
      simp only [h.mem_deciding_iff, and_assoc]
      rfl

/-- A member's number, known from a loan, as a key, and as a number that persons have too. -/
def memberKeys : List Key := [
  placeholder ⟨"members", "id", rfl⟩ { name := ⟨"loans", "member_id", rfl⟩, fieldType := .int },
  { name := ⟨"members", "id", rfl⟩, fieldType := .int, nullable := false, primaryKey := true },
  { name := ⟨"members", "id", rfl⟩, fieldType := .int, nullable := true
    referencing := some ⟨"persons", "id", rfl⟩
    referencedBy := SortedSet.ofList [⟨"fees", "member_id", rfl⟩] }]

namespace Merging

/-- The first two of three definitions are merged first. -/
def ofMember : Merging :=
  both (both (single memberKeys[0]) (single memberKeys[1])) (single memberKeys[2])

/-- The last two of three definitions are merged first, and the first comes last. -/
def ofMemberLate : Merging :=
  both (both (single memberKeys[2]) (single memberKeys[1])) (single memberKeys[0])

theorem lawful_ofMember :
    ofMember.keys.Perm ofMemberLate.keys ∧
    ofMember.run.toOption = ofMemberLate.run.toOption ∧
    ∃ m, ofMember.run = .ok m ∧ m.nullable = false ∧ m.primaryKey = true ∧
      m.referencing = some ⟨"persons", "id", rfl⟩ ∧
      (⟨"loans", "member_id", rfl⟩ : QualifiedName) ∈ m.referencedBy ∧
      (⟨"fees", "member_id", rfl⟩ : QualifiedName) ∈ m.referencedBy := by
  obtain ⟨-, -, -, hpaired, hsucceeds, hgives⟩ := lawful
  have hperm : ofMember.keys.Perm ofMemberLate.keys := (List.reverse_perm _).symm
  have hsame : ∀ a ∈ ofMember.keys, a.name = ⟨"members", "id", rfl⟩ ∧ a.fieldType = .int ∧
      (a.referencing = none ∨ a.referencing = some ⟨"persons", "id", rfl⟩) := by decide +kernel
  obtain ⟨m, hm⟩ : ∃ m, ofMember.run = .ok m := by
    apply (hsucceeds ofMember).mpr
    intro a ha b hb
    obtain ⟨hna, hta, hra⟩ := hsame a ha
    obtain ⟨hnb, htb, hrb⟩ := hsame b hb
    refine ⟨hna.trans hnb.symm, hta.trans htb.symm, ?_⟩
    intro p q hp hq
    simp_all
  obtain ⟨-, hreferencing, hreferencedBy, -, hnullable, hprimaryKey⟩ := hgives ofMember m hm
  refine ⟨hperm, hpaired _ _ hperm, m, hm, hnullable, hprimaryKey, ?_, ?_, ?_⟩
  · exact (hreferencing _).mpr ⟨memberKeys[2], by simp [ofMember, keys], rfl⟩
  · exact (hreferencedBy _).mpr
      ⟨memberKeys[0], by simp [ofMember, keys], SortedSet.mem_insert.mpr (.inl rfl)⟩
  · exact (hreferencedBy _).mpr
      ⟨memberKeys[2], by simp [ofMember, keys], SortedSet.mem_ofList.mpr (.head _)⟩

end Merging

end Key

end NestedRows
