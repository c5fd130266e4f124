import NestedRows.Text.Split
/-!
# Parts that are joined again

Cutting a text at a separator is `List.splitOn`, so the parts joined by the separator are the text
(`Text.intercalate_splitAt`), and parts without the separator are found again when they are joined.
-/

namespace NestedRows.Text

variable {separator : Char} {l part : List Char}

theorem splitAt_eq_splitOn (separator : Char) (l : List Char) :
    splitAt separator l = l.splitOn separator := by
  induction l with
  | nil => rfl
  | cons c rest ih =>
    rw [splitAt, List.splitOn_cons_eq_if_modifyHead, ih]
    simp only [beq_iff_eq]
    split
    · rfl
    · cases h : rest.splitOn separator with
      | nil => exact absurd h (List.splitOn_ne_nil _ _)
      | cons part parts => rfl

theorem separator_notMem_of_mem_splitAt (h : part ∈ splitAt separator l) : separator ∉ part := by
  induction l generalizing part with
  | nil =>
    obtain rfl := List.mem_singleton.mp h
    exact List.not_mem_nil
  | cons c rest ih =>
    rw [splitAt] at h
    split at h
    · rcases List.mem_cons.mp h with rfl | h
      · exact List.not_mem_nil
      · exact ih h
    case isFalse hc =>
      cases hrest : splitAt separator rest with
      | nil =>
        rw [hrest] at h
        obtain rfl := List.mem_singleton.mp h
        simpa using Ne.symm hc
      | cons first more =>
        rw [hrest] at h
        rcases List.mem_cons.mp h with rfl | h
        · have hfirst := ih (hrest ▸ List.mem_cons_self)
          simpa [hfirst] using Ne.symm hc
        · exact ih (hrest ▸ List.mem_cons_of_mem _ h)

theorem intercalate_splitAt (separator : Char) (l : List Char) :
    [separator].intercalate (splitAt separator l) = l := by
  rw [splitAt_eq_splitOn]
  exact List.intercalate_splitOn separator

/-- There is one part more than separators. -/
theorem length_splitAt (separator : Char) (l : List Char) :
    (splitAt separator l).length = l.count separator + 1 := by
  rw [splitAt_eq_splitOn]
  induction l with
  | nil => rfl
  | cons c rest ih =>
    rw [List.splitOn_cons_eq_if_modifyHead, List.count_cons]
    split
    · rw [List.length_cons, ih]
    · rw [List.length_modifyHead, ih, Nat.add_zero]

/-- A separator that stands once leaves two parts. -/
theorem exists_parts_of_count_eq_one (h : l.count separator = 1) :
    ∃ before after, separator ∉ before ∧ separator ∉ after ∧ l = before ++ separator :: after := by
  have hmem : separator ∈ l := List.count_pos_iff.mp (by omega)
  obtain ⟨before, after, rfl⟩ := List.append_of_mem hmem
  rw [List.count_append, List.count_cons_self] at h
  have hbefore : separator ∉ before := List.count_eq_zero.mp (by omega)
  have hafter : separator ∉ after := List.count_eq_zero.mp (by omega)
  exact ⟨before, after, hbefore, hafter, rfl⟩

theorem splitAt_of_notMem (h : separator ∉ l) : splitAt separator l = [l] := by
  rw [splitAt_eq_splitOn, List.splitOn_eq_singleton h]

theorem splitAt_append_cons (h : separator ∉ part) (l : List Char) :
    splitAt separator (part ++ separator :: l) = part :: splitAt separator l := by
  rw [splitAt_eq_splitOn, splitAt_eq_splitOn, List.splitOn_append_cons_self_of_not_mem h]

end NestedRows.Text
