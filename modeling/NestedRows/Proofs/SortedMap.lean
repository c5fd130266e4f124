import NestedRows.SortedMap
import Mathlib.Data.List.Basic
import Mathlib.Data.List.Induction
/-!
# Look-ups of maps and members of sets

What each operation on a map does to its look-ups, and each operation on a set to its members. The
rest of the proofs reach the entries of a map only through `get?`, and the elements of a set only
through membership.
-/

namespace NestedRows

open Std (TransOrd LawfulEqOrd)

namespace SortedMap

variable {κ α β : Type} [Ord κ] [TransOrd κ] [LawfulEqOrd κ]

theorem get?_insert_self (m : SortedMap κ α) (k : κ) (v : α) : (m.insert k v).get? k = some v := by
  simp [get?_insert]

theorem get?_insert_of_ne (m : SortedMap κ α) {k j : κ} (v : α) (h : j ≠ k) :
    (m.insert k v).get? j = m.get? j := by
  rw [get?_insert, if_neg]
  intro he
  exact h (Std.LawfulEqOrd.eq_of_compare he)

theorem get?_erase_self (m : SortedMap κ α) (k : κ) : (m.erase k).get? k = none := by
  rw [Option.eq_none_iff_forall_ne_some]
  intro v hv
  rw [get?_eq_some_iff, erase, List.mem_filter] at hv
  simp at hv

theorem get?_erase_of_ne (m : SortedMap κ α) {k j : κ} (h : j ≠ k) :
    (m.erase k).get? j = m.get? j := by
  apply Option.ext
  intro v
  rw [get?_eq_some_iff, get?_eq_some_iff, erase, List.mem_filter]
  have hkeep : compare k j ≠ .eq := fun he => h (Std.LawfulEqOrd.eq_of_compare he).symm
  simp [hkeep]

theorem erase_of_get?_eq_none {m : SortedMap κ α} {k : κ} (h : m.get? k = none) : m.erase k = m := by
  apply ext_get?
  intro j
  by_cases hj : j = k
  · rw [hj, get?_erase_self, h]
  · exact get?_erase_of_ne m hj

theorem erase_insert_self (m : SortedMap κ α) (k : κ) (v : α) : (m.insert k v).erase k = m.erase k := by
  apply ext_get?
  intro j
  by_cases hj : j = k
  · rw [hj, get?_erase_self, get?_erase_self]
  · rw [get?_erase_of_ne _ hj, get?_erase_of_ne _ hj, get?_insert_of_ne _ _ hj]

theorem erase_erase_self (m : SortedMap κ α) (k : κ) : (m.erase k).erase k = m.erase k :=
  erase_of_get?_eq_none (get?_erase_self m k)

theorem erase_insert_of_ne (m : SortedMap κ α) {k j : κ} (v : α) (h : j ≠ k) :
    (m.insert j v).erase k = (m.erase k).insert j v := by
  apply ext_get?
  intro i
  by_cases hi : i = j
  · rw [hi, get?_erase_of_ne _ h, get?_insert_self, get?_insert_self]
  · rw [get?_insert_of_ne _ _ hi]
    by_cases hk : i = k
    · rw [hk, get?_erase_self, get?_erase_self]
    · rw [get?_erase_of_ne _ hk, get?_erase_of_ne _ hk, get?_insert_of_ne _ _ hi]

theorem erase_insert_erase (m : SortedMap κ α) (k j : κ) (v : α) :
    ((m.erase k).insert j v).erase k = (m.insert j v).erase k := by
  apply ext_get?
  intro i
  by_cases hk : i = k
  · rw [hk, get?_erase_self, get?_erase_self]
  · rw [get?_erase_of_ne _ hk, get?_erase_of_ne _ hk]
    by_cases hi : i = j
    · rw [hi, get?_insert_self, get?_insert_self]
    · rw [get?_insert_of_ne _ _ hi, get?_insert_of_ne _ _ hi, get?_erase_of_ne _ hk]

omit [LawfulEqOrd κ] [TransOrd κ] in
theorem erase_comm (m : SortedMap κ α) (k j : κ) : (m.erase j).erase k = (m.erase k).erase j :=
  ext (List.filter_comm _ _ _)

theorem get?_mapValues (f : κ → α → β) (m : SortedMap κ α) (k : κ) :
    (m.mapValues f).get? k = (m.get? k).map (f k) := by
  apply Option.ext
  intro v
  rw [get?_eq_some_iff, Option.map_eq_some_iff]
  constructor
  · intro h
    obtain ⟨⟨k', w⟩, hmem, heq⟩ := List.mem_map.mp h
    obtain ⟨rfl, rfl⟩ := Prod.mk.injEq .. ▸ heq
    exact ⟨w, get?_eq_some_iff.mpr hmem, rfl⟩
  · rintro ⟨w, hw, rfl⟩
    exact List.mem_map.mpr ⟨(k, w), get?_eq_some_iff.mp hw, rfl⟩

/-- Maps whose values have the same images are the same if the images tell the values. -/
theorem eq_of_mapValues {f : α → β} {m m' : SortedMap κ α}
    (h : (m.mapValues fun _ v => f v) = m'.mapValues fun _ v => f v)
    (hf : ∀ k v v', m.get? k = some v → m'.get? k = some v' → f v = f v' → v = v') : m = m' := by
  apply ext_get?
  intro k
  have hk := congrArg (get? · k) h
  simp only [get?_mapValues] at hk
  cases hv : m.get? k with
  | none =>
    rw [hv, Option.map_none, eq_comm, Option.map_eq_none_iff] at hk
    exact hk.symm
  | some v =>
    rw [hv, Option.map_some, eq_comm, Option.map_eq_some_iff] at hk
    obtain ⟨v', hv', himage⟩ := hk
    rw [hv', hf k v v' hv hv' himage.symm]

omit [TransOrd κ] [LawfulEqOrd κ] in
theorem contains_iff {m : SortedMap κ α} {k : κ} :
    m.contains k = true ↔ ∃ v, m.get? k = some v := by
  rw [contains, Option.isSome_iff_exists]

theorem contains_iff_mem_keys {m : SortedMap κ α} {k : κ} : m.contains k = true ↔ k ∈ m.keys := by
  rw [contains_iff, keys, List.mem_map]
  constructor
  · rintro ⟨v, hv⟩
    exact ⟨(k, v), get?_eq_some_iff.mp hv, rfl⟩
  · rintro ⟨⟨key, v⟩, hmem, rfl⟩
    exact ⟨v, get?_eq_some_iff.mpr hmem⟩

theorem mem_values {m : SortedMap κ α} {v : α} : v ∈ m.values ↔ ∃ k, m.get? k = some v := by
  rw [values, List.mem_map]
  constructor
  · rintro ⟨⟨k, w⟩, hmem, rfl⟩
    exact ⟨k, get?_eq_some_iff.mpr hmem⟩
  · rintro ⟨k, hk⟩
    exact ⟨(k, v), get?_eq_some_iff.mp hk, rfl⟩

omit [LawfulEqOrd κ] in
theorem nodup_keys (m : SortedMap κ α) : m.keys.Nodup := by
  rw [keys, List.Nodup, List.pairwise_map]
  refine m.sorted.imp fun {a b} hlt heq => ?_
  rw [heq] at hlt
  simp at hlt

/-- Values that know their keys are listed like these. -/
theorem map_values_eq_keys {m : SortedMap κ α} {f : α → κ} (h : ∀ {k v}, m.get? k = some v → f v = k) :
    m.values.map f = m.keys := by
  rw [values, keys, List.map_map]
  exact List.map_congr_left fun (k, v) hmem => h (get?_eq_some_iff.mpr hmem)

/-- A map filled from entries of which one key has at most one finds exactly the entries. -/
theorem get?_foldl_insert {l : List (κ × α)} (hl : (l.map (·.1)).Nodup) (m : SortedMap κ α) (k : κ)
    (v : α) :
    (l.foldl (fun m e => m.insert e.1 e.2) m).get? k = some v ↔
      (k, v) ∈ l ∨ (k ∉ l.map (·.1) ∧ m.get? k = some v) := by
  induction l generalizing m with
  | nil => simp
  | cons e rest ih =>
    rw [List.map_cons, List.nodup_cons] at hl
    rw [List.foldl_cons, ih hl.2, List.map_cons, List.mem_cons, List.mem_cons]
    by_cases hk : k = e.1
    · subst hk
      have hrest : (e.1, v) ∉ rest := fun hmem => hl.1 (List.mem_map.mpr ⟨_, hmem, rfl⟩)
      rw [get?_insert_self, Option.some.injEq, Prod.ext_iff]
      simp only [hrest, hl.1, true_and, not_false_eq_true, false_or, or_false,
        not_true_eq_false, false_and]
      exact eq_comm
    · rw [get?_insert_of_ne _ _ hk]
      simp [hk, Prod.ext_iff]

theorem get?_ofList {l : List (κ × α)} (hl : (l.map (·.1)).Nodup) {k : κ} {v : α} :
    (ofList l).get? k = some v ↔ (k, v) ∈ l := by
  rw [ofList, get?_foldl_insert hl]
  simp

/-- What a map filled from entries finds is one of them. -/
theorem mem_of_get?_ofList {l : List (κ × α)} {k : κ} {v : α} (h : (ofList l).get? k = some v) :
    (k, v) ∈ l := by
  have hfold : ∀ m : SortedMap κ α, (l.foldl (fun m e => m.insert e.1 e.2) m).get? k = some v →
      (k, v) ∈ l ∨ m.get? k = some v := by
    clear h
    induction l with
    | nil => exact fun _ h => .inr h
    | cons e rest ih =>
      intro m h
      rcases ih _ h with hmem | hfound
      · exact .inl (List.mem_cons_of_mem _ hmem)
      · by_cases hk : k = e.1
        · subst hk
          rw [get?_insert_self, Option.some.injEq] at hfound
          subst hfound
          exact .inl List.mem_cons_self
        · rw [get?_insert_of_ne _ _ hk] at hfound
          exact .inr hfound
  rcases hfold _ h with hmem | hempty
  · exact hmem
  · simp at hempty

/-- Of the entries with one key the last counts. -/
theorem get?_ofList_eq_getLast? [DecidableEq κ] (l : List (κ × α)) (k : κ) :
    (ofList l).get? k = ((l.filter fun e => e.1 = k).getLast?).map Prod.snd := by
  induction l using List.reverseRecOn with
  | nil => rfl
  | append_singleton l e ih =>
    rw [ofList, List.foldl_append, List.foldl_cons, List.foldl_nil, List.filter_append]
    by_cases hk : k = e.1
    · subst hk
      rw [get?_insert_self]
      simp
    · rw [get?_insert_of_ne _ _ hk, List.filter_cons_of_neg (by simpa using Ne.symm hk), List.filter_nil,
        List.append_nil, ← ih, ofList]

/-- At most one value passes a test if and only if all that pass stand at one key. -/
theorem length_filter_values_le_one_iff {m : SortedMap κ α} {p : α → Bool} :
    (m.values.filter p).length ≤ 1 ↔
      ∀ k k' v v', m.get? k = some v → m.get? k' = some v' → p v = true → p v' = true → k = k' := by
  rw [values, List.filter_map, List.length_map]
  have hmem : ∀ k v, (k, v) ∈ m.toList.filter (p ∘ Prod.snd) ↔ m.get? k = some v ∧ p v = true := by
    intro k v
    rw [List.mem_filter, get?_eq_some_iff, Function.comp_apply]
  have hsorted := m.sorted.filter (p ∘ Prod.snd)
  generalize m.toList.filter (p ∘ Prod.snd) = l at hmem hsorted
  constructor
  · intro hlength k k' v v' hk hk' hv hv'
    match l, hlength with
    | [], _ => exact absurd ((hmem k v).mpr ⟨hk, hv⟩) List.not_mem_nil
    | [e], _ =>
      have hfst := List.mem_singleton.mp ((hmem k v).mpr ⟨hk, hv⟩)
      have hsnd := List.mem_singleton.mp ((hmem k' v').mpr ⟨hk', hv'⟩)
      exact congrArg Prod.fst (hfst.trans hsnd.symm)
  · intro hall
    match l with
    | [] => exact Nat.zero_le 1
    | [e] => exact Nat.le_refl 1
    | (k, v) :: (k', v') :: rest =>
      obtain ⟨hk, hv⟩ := (hmem k v).mp List.mem_cons_self
      obtain ⟨hk', hv'⟩ := (hmem k' v').mp (List.mem_cons_of_mem _ List.mem_cons_self)
      have hlt := (List.pairwise_cons.mp hsorted).1 (k', v') List.mem_cons_self
      rw [hall k k' v v' hk hk' hv hv'] at hlt
      simp at hlt

end SortedMap

namespace SortedSet

variable {κ : Type} [Ord κ] [TransOrd κ] [LawfulEqOrd κ]

omit [TransOrd κ] [LawfulEqOrd κ] in
@[simp] theorem not_mem_empty (x : κ) : x ∉ (empty : SortedSet κ) := List.not_mem_nil

omit [TransOrd κ] in
theorem contains_iff {s : SortedSet κ} {x : κ} : s.contains x = true ↔ x ∈ s := by
  rw [contains, List.any_eq_true]
  constructor
  · rintro ⟨y, hy, heq⟩
    obtain rfl := Std.LawfulEqOrd.eq_of_compare (eq_of_beq heq)
    exact hy
  · intro hx
    exact ⟨x, hx, by simp⟩

omit [LawfulEqOrd κ] in
theorem ext_mem {s t : SortedSet κ} (h : ∀ x, x ∈ s ↔ x ∈ t) : s = t := by
  have hpairs : s.toList.map (·, ()) = t.toList.map (·, ()) :=
    SortedMap.eq_of_mem_iff (List.pairwise_map.mpr s.sorted) (List.pairwise_map.mpr t.sorted)
      fun (x, _) => by
        simp only [List.mem_map, Prod.mk.injEq, and_true, exists_eq_right]
        exact h x
  have hfst := congrArg (List.map Prod.fst) hpairs
  rw [List.map_map, List.map_map] at hfst
  exact ext (by simpa [Function.comp_def] using hfst)

omit [TransOrd κ] in
theorem mem_insertInto_iff {x y : κ} {l : List κ} : y ∈ insertInto x l ↔ y = x ∨ y ∈ l := by
  refine ⟨mem_insertInto, fun h => ?_⟩
  induction l with
  | nil => simpa [insertInto] using h
  | cons z rest ih =>
    rw [insertInto]
    split
    case h_1 => exact List.mem_cons.mpr h
    case h_2 hc =>
      obtain rfl := Std.LawfulEqOrd.eq_of_compare hc
      rcases h with rfl | h
      · exact List.mem_cons_self
      · exact h
    case h_3 =>
      rcases h with rfl | h
      · exact List.mem_cons_of_mem _ (ih (.inl rfl))
      · rcases List.mem_cons.mp h with rfl | h
        · exact List.mem_cons_self
        · exact List.mem_cons_of_mem _ (ih (.inr h))

@[simp] theorem mem_insert {s : SortedSet κ} {x y : κ} : y ∈ s.insert x ↔ y = x ∨ y ∈ s :=
  mem_insertInto_iff

theorem mem_foldl_insert {l : List κ} {s : SortedSet κ} {y : κ} :
    y ∈ l.foldl insert s ↔ y ∈ l ∨ y ∈ s := by
  induction l generalizing s with
  | nil => simp
  | cons x rest ih =>
    rw [List.foldl_cons, ih, mem_insert, List.mem_cons]
    tauto

@[simp] theorem mem_union {s t : SortedSet κ} {y : κ} : y ∈ s.union t ↔ y ∈ s ∨ y ∈ t := by
  rw [union, mem_foldl_insert]
  exact or_comm

@[simp] theorem mem_ofList {l : List κ} {y : κ} : y ∈ ofList l ↔ y ∈ l := by
  rw [ofList, mem_foldl_insert]
  simp

theorem ofList_toList (s : SortedSet κ) : ofList s.toList = s :=
  ext_mem fun _ => mem_ofList

end SortedSet

end NestedRows
