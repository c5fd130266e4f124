import NestedRows.Query.Assemble
import NestedRows.Proofs.SortedMap
/-!
# Cells, keys and groups of rows

What the pieces of assembling do: a cell is found under its name, the keys of rows are their distinct
values that are not null, and the group of a key holds the objects with this key in their order.
-/

namespace NestedRows

theorem Row.get?_of_mem {row : Row} (hnames : (row.map Prod.fst).Nodup) {name : String} {v : Json}
    (h : (name, v) ∈ row) : row.get? name = some v := by
  induction row with
  | nil => cases h
  | cons cell rest ih =>
    obtain ⟨other, w⟩ := cell
    rw [List.map_cons, List.nodup_cons] at hnames
    rw [Row.get?, List.lookup_cons]
    rcases List.mem_cons.mp h with heq | hrest
    · obtain ⟨rfl, rfl⟩ := Prod.mk.inj heq
      simp
    · have hne : name ≠ other := by
        rintro rfl
        exact hnames.1 (List.mem_map.mpr ⟨_, hrest, rfl⟩)
      rw [beq_false_of_ne hne]
      exact ih hnames.2 hrest

/-! ### Keys -/

theorem mem_of_mem_distinctValues {seen : List String} {l : List Json} {v : Json}
    (h : v ∈ distinctValues seen l) : v ∈ l := by
  induction l generalizing seen with
  | nil => cases h
  | cons w rest ih =>
    rw [distinctValues] at h
    split at h
    case h_1 => exact List.mem_cons_of_mem _ (ih h)
    case h_2 =>
      split at h
      case isTrue => exact List.mem_cons_of_mem _ (ih h)
      case isFalse =>
        rcases List.mem_cons.mp h with rfl | h
        · exact List.mem_cons_self
        · exact List.mem_cons_of_mem _ (ih h)

/-- Of the values with one key one is kept. -/
theorem exists_mem_distinctValues {seen : List String} {l : List Json} {v : Json} {k : String}
    (hv : v ∈ l) (hk : keyOf v = some k) (hseen : k ∉ seen) :
    ∃ w ∈ distinctValues seen l, keyOf w = some k := by
  induction l generalizing seen with
  | nil => cases hv
  | cons w rest ih =>
    rw [distinctValues]
    cases hw : keyOf w with
    | none =>
      rcases List.mem_cons.mp hv with rfl | hv
      · rw [hk] at hw
        cases hw
      · exact ih hv hseen
    | some j =>
      simp only
      by_cases hj : k = j
      · subst hj
        rw [if_neg (by simpa using hseen)]
        exact ⟨w, List.mem_cons_self, hw⟩
      · have hvrest : v ∈ rest := by
          rcases List.mem_cons.mp hv with rfl | hv
          · exact absurd (Option.some.inj (hk.symm.trans hw)) hj
          · exact hv
        split
        case isTrue => exact ih hvrest hseen
        case isFalse =>
          have hlater : k ∉ j :: seen := fun hmem => (List.mem_cons.mp hmem).elim hj hseen
          obtain ⟨u, hu, huk⟩ := ih hvrest hlater
          exact ⟨u, List.mem_cons_of_mem _ hu, huk⟩

/-! ### Groups -/

theorem get?_addToGroup (groups : Groups) (o : Option String × Json) (k : String) :
    ((addToGroup groups o).get? k).getD []
      = (groups.get? k).getD [] ++ if o.1 = some k then [o.2] else [] := by
  obtain ⟨_ | j, v⟩ := o
  · simp [addToGroup]
  · rw [addToGroup]
    by_cases h : k = j
    · subst h
      rw [SortedMap.get?_insert_self]
      simp
    · rw [SortedMap.get?_insert_of_ne _ _ h]
      simp [Ne.symm h]

theorem get?_foldl_addToGroup (objects : List (Option String × Json)) (groups : Groups) (k : String) :
    ((objects.foldl addToGroup groups).get? k).getD []
      = (groups.get? k).getD [] ++ (objects.filter fun o => o.1 = some k).map Prod.snd := by
  induction objects generalizing groups with
  | nil => simp
  | cons o rest ih =>
    rw [List.foldl_cons, ih, get?_addToGroup, List.append_assoc]
    congr 1
    by_cases h : o.1 = some k <;> simp [h]

theorem get?_group (objects : List (Option String × Json)) (k : String) :
    ((group objects).get? k).getD [] = (objects.filter fun o => o.1 = some k).map Prod.snd := by
  rw [group, get?_foldl_addToGroup]
  rfl

end NestedRows
