import NestedRows.Text.Blank
import NestedRows.Text.Case
import Mathlib.Data.List.DropRight
import Mathlib.Data.List.Induction
import Mathlib.Data.List.TakeWhile
/-!
# Runs, words and upper case

A run of characters of one kind ends at the first character of another kind. The first word of a text is such
a run, and trimming takes one away at each end.

Upper case moves no boundary of words: a blank or a parenthesis stays as it is, and nothing else becomes one or
vanishes (`upper_eq_or`). The case mapping is a long table, so this is decided for its runs, and not for the
characters in them. For the letters from `a` to `z` it makes no difference in which case they were.
-/

namespace NestedRows.Text

/-! ### Runs -/

section Run

variable {p : Char → Bool} {run rest : List Char}

theorem takeWhile_run (hrun : ∀ c ∈ run, p c = true) (hstop : ∀ c ∈ rest.head?, p c = false) :
    (run ++ rest).takeWhile p = run := by
  rw [List.takeWhile_append_of_pos hrun]
  cases rest with
  | nil => simp
  | cons c rest => simp [hstop c rfl]

theorem dropWhile_run (hrun : ∀ c ∈ run, p c = true) (hstop : ∀ c ∈ rest.head?, p c = false) :
    (run ++ rest).dropWhile p = rest := by
  rw [List.dropWhile_append_of_pos hrun]
  cases rest with
  | nil => simp
  | cons c rest => simp [hstop c rfl]

theorem head?_dropWhile {l : List Char} : ∀ c ∈ (l.dropWhile p).head?, p c = false := by
  intro c hc
  have h := List.head?_dropWhile_not p l
  rw [Option.mem_def.mp hc] at h
  exact h

theorem forall_head?_append {P : Char → Prop} (hne : run ≠ []) (hrun : ∀ c ∈ run, P c) :
    ∀ c ∈ (run ++ rest).head?, P c := by
  obtain ⟨c, tail, rfl⟩ := List.exists_cons_of_ne_nil hne
  intro d hd
  exact Option.some.inj hd ▸ hrun c List.mem_cons_self

end Run

/-- Trimming at the right goes no further than a character that is no blank. -/
theorem rdropWhile_append_cons {c : Char} (hc : isBlank c = false) (before rest : List Char) :
    (before ++ c :: rest).rdropWhile isBlank = before ++ c :: rest.rdropWhile isBlank := by
  induction rest using List.reverseRecOn with
  | nil =>
    rw [List.rdropWhile_concat, if_neg (Bool.eq_false_iff.mp hc)]
    rfl
  | append_singleton rest d ih =>
    rw [← List.cons_append, ← List.append_assoc, List.rdropWhile_concat, List.rdropWhile_concat]
    by_cases hd : isBlank d = true
    · rw [if_pos hd, if_pos hd, ih]
    · rw [if_neg hd, if_neg hd, List.append_assoc]
      rfl

theorem trim_append {before word rest : List Char} (hbefore : ∀ c ∈ before, isBlank c = true)
    (hword : ∀ c ∈ word, isBlank c = false) (hne : word ≠ []) :
    trim (before ++ word ++ rest) = word ++ rest.rdropWhile isBlank := by
  have hstop : ∀ c ∈ (word ++ rest).head?, isBlank c = false := forall_head?_append hne hword
  obtain ⟨start, c, rfl⟩ := (List.eq_nil_or_concat word).resolve_left hne
  have hc : isBlank c = false := hword c (by simp)
  have hright := rdropWhile_append_cons hc start rest
  rw [trim, trimLeft, List.append_assoc, dropWhile_run hbefore hstop, List.concat_eq_append, List.append_assoc,
    List.append_assoc]
  exact hright

theorem firstWord?_append {word rest : List Char} (hword : ∀ c ∈ word, isBlank c = false) (hne : word ≠ [])
    (hstop : ∀ c ∈ rest.head?, isBlank c = true) : firstWord? (word ++ rest) = some word := by
  have hrun : ∀ c ∈ word, (!isBlank c) = true := by simpa using hword
  have hend : ∀ c ∈ rest.head?, (!isBlank c) = false := by simpa using hstop
  have hempty : ∀ c ∈ ([] : List Char), isBlank c = true := by simp
  have hleft : trimLeft (word ++ rest) = word ++ rest := dropWhile_run hempty (forall_head?_append hne hword)
  obtain ⟨c, tail, rfl⟩ := List.exists_cons_of_ne_nil hne
  rw [firstWord?, hleft, takeWhile_run hrun hend]

/-! ### Upper case -/

/-- Whether `code` is that of a blank or a parenthesis. -/
def isBoundaryCode (code : Nat) : Bool :=
  CharSet.memberAfter code blanks.changes false || code == 40 || code == 41

/-- Whether `c` is a blank or a parenthesis. -/
def isBoundary (c : Char) : Bool := isBoundaryCode c.toNat

theorem isBoundary_of_isBlank {c : Char} (hc : isBlank c = true) : isBoundary c = true :=
  Bool.or_eq_true_iff.mpr (.inl (Bool.or_eq_true_iff.mpr (.inl hc)))

theorem isBoundary_open : isBoundary '(' = true := by decide +kernel

theorem isBoundary_close : isBoundary ')' = true := by decide +kernel

theorem isBoundary_ofNat {code : Nat} (h : isBoundaryCode code = false) : isBoundary (Char.ofNat code) = false := by
  by_cases hvalid : code.isValidChar
  · have hcode : (Char.ofNat code).toNat = code := by
      rw [Char.ofNat, dif_pos hvalid]
      rfl
    rw [isBoundary, hcode, h]
  · rw [Char.ofNat, dif_neg hvalid]
    rfl

/-- Between two changes, all characters are on the same side of a set. -/
theorem memberAfter_eq_of_le {first code : Nat} {changes : List Nat} (hfirst : first ≤ code)
    (hno : ∀ change ∈ changes, first < change → code < change) (inside : Bool) :
    CharSet.memberAfter code changes inside = CharSet.memberAfter first changes inside := by
  induction changes generalizing inside with
  | nil => rfl
  | cons change changes ih =>
    have hrest := ih fun other hother => hno other (List.mem_cons_of_mem _ hother)
    rw [CharSet.memberAfter, CharSet.memberAfter, hrest]
    by_cases hbelow : first < change
    · rw [if_pos hbelow, if_pos (hno change List.mem_cons_self hbelow)]
    · rw [if_neg hbelow, if_neg (by omega)]

/-- Whether no blank and no parenthesis has a code from `first` to `last`. -/
def boundariesMiss (first last : Nat) : Bool :=
  !isBoundaryCode first &&
    (40 :: 41 :: blanks.changes).all fun change => change ≤ first || last < change

theorem isBoundaryCode_of_miss {first last code : Nat} (hmiss : boundariesMiss first last = true)
    (hfirst : first ≤ code) (hlast : code ≤ last) : isBoundaryCode code = false := by
  simp only [boundariesMiss, Bool.and_eq_true, Bool.not_eq_true', List.all_eq_true, Bool.or_eq_true,
    decide_eq_true_eq, List.mem_cons, forall_eq_or_imp] at hmiss
  obtain ⟨hno, hopen, hclose, hblanks⟩ := hmiss
  simp only [isBoundaryCode, Bool.or_eq_false_iff, beq_eq_false_iff_ne] at hno ⊢
  obtain ⟨⟨hblank, hfirstopen⟩, hfirstclose⟩ := hno
  refine ⟨⟨?_, by omega⟩, by omega⟩
  rw [memberAfter_eq_of_le hfirst (fun change hchange hbelow => ?_), hblank]
  have hside := hblanks change hchange
  omega

theorem upperMap_sequences : ∀ entry ∈ upperMap.sequences,
    isBoundaryCode entry.1 = false ∧ entry.2 ≠ [] ∧ ∀ code ∈ entry.2, isBoundaryCode code = false := by
  decide +kernel

theorem upperMap_runs : ∀ r ∈ upperMap.runs, boundariesMiss r.first r.last = true ∧
    boundariesMiss (r.first + r.shift).toNat (r.last + r.shift).toNat = true := by
  decide +kernel

/-- A character stays as it is in upper case, or neither it nor what it becomes is a boundary. -/
theorem upper_eq_or (c : Char) : upperMap.apply c = [c] ∨
    isBoundary c = false ∧ upperMap.apply c ≠ [] ∧ ∀ d ∈ upperMap.apply c, isBoundary d = false := by
  rw [CaseMap.apply]
  cases hsequence : upperMap.sequences.lookup c.toNat with
  | some codes =>
    obtain ⟨before, after, hsplit, -⟩ := List.lookup_eq_some_iff.mp hsequence
    have hmem : (c.toNat, codes) ∈ upperMap.sequences := by
      rw [hsplit]
      exact List.mem_append_right _ List.mem_cons_self
    obtain ⟨hkey, hne, hcodes⟩ := upperMap_sequences _ hmem
    refine .inr ⟨hkey, by simpa using hne, ?_⟩
    intro d hd
    obtain ⟨code, hcode, rfl⟩ := List.mem_map.mp hd
    exact isBoundary_ofNat (hcodes code hcode)
  | none =>
    cases hrun : upperMap.runs.find? fun r =>
        r.first ≤ c.toNat && c.toNat ≤ r.last && (c.toNat - r.first) % r.stride == 0 with
    | none => exact .inl rfl
    | some r =>
      have hwithin := List.find?_some hrun
      simp only [Bool.and_eq_true, decide_eq_true_eq] at hwithin
      obtain ⟨hfrom, hto⟩ := upperMap_runs r (List.mem_of_find?_eq_some hrun)
      refine .inr ⟨isBoundaryCode_of_miss hfrom hwithin.1.1 hwithin.1.2, List.cons_ne_nil _ _, ?_⟩
      intro d hd
      obtain rfl := List.mem_singleton.mp hd
      exact isBoundary_ofNat (isBoundaryCode_of_miss hto (by omega) (by omega))

theorem upper_boundary {c : Char} (hc : isBoundary c = true) : upperMap.apply c = [c] := by
  refine (upper_eq_or c).resolve_right fun hother => ?_
  rw [hother.1] at hc
  cases hc

theorem upper_ne_nil (c : Char) : upperMap.apply c ≠ [] := by
  cases upper_eq_or c with
  | inl hsame => simp [hsame]
  | inr hother => exact hother.2.1

theorem eq_of_mem_upper {c d : Char} (h : d ∈ upperMap.apply c) (hd : isBoundary d = true) : c = d := by
  cases upper_eq_or c with
  | inl hsame =>
    rw [hsame] at h
    exact (List.mem_singleton.mp h).symm
  | inr hother =>
    rw [hother.2.2 d h] at hd
    cases hd

theorem toUpper_append (s t : List Char) : toUpper (s ++ t) = toUpper s ++ toUpper t :=
  List.flatMap_append

theorem toUpper_cons (c : Char) (s : List Char) : toUpper (c :: s) = upperMap.apply c ++ toUpper s :=
  List.flatMap_cons

theorem toUpper_ne_nil {s : List Char} (h : s ≠ []) : toUpper s ≠ [] := by
  obtain ⟨c, s, rfl⟩ := List.exists_cons_of_ne_nil h
  rw [toUpper_cons]
  exact List.append_ne_nil_of_left_ne_nil (upper_ne_nil c) _

theorem mem_toUpper_boundary {s : List Char} {d : Char} (hd : isBoundary d = true) :
    d ∈ toUpper s ↔ d ∈ s := by
  constructor
  · intro h
    obtain ⟨c, hc, hupper⟩ := List.mem_flatMap.mp h
    exact eq_of_mem_upper hupper hd ▸ hc
  · intro h
    refine List.mem_flatMap.mpr ⟨d, h, ?_⟩
    rw [upper_boundary hd]
    exact List.mem_singleton_self d

theorem toUpper_boundaries {s : List Char} (h : ∀ c ∈ s, isBoundary c = true) : toUpper s = s := by
  induction s with
  | nil => rfl
  | cons c s ih =>
    rw [toUpper_cons, upper_boundary (h c List.mem_cons_self), ih fun d hd => h d (List.mem_cons_of_mem _ hd)]
    rfl

/-! ### Letters from `a` to `z` -/

theorem upper_toUpper (c : Char) : upperMap.apply c.toUpper = upperMap.apply c := by
  have hshift : ∀ i < 26, (Char.ofNat (97 + i)).toUpper = Char.ofNat (65 + i) := by decide +kernel
  have hsame : ∀ i < 26, upperMap.apply (Char.ofNat (65 + i)) = upperMap.apply (Char.ofNat (97 + i)) := by
    decide +kernel
  by_cases hc : 'a'.val ≤ c.val ∧ c.val ≤ 'z'.val
  · have hfirst : 97 ≤ c.toNat := hc.1
    have hlast : c.toNat ≤ 122 := hc.2
    have hletter : Char.ofNat (97 + (c.toNat - 97)) = c := by
      rw [Nat.add_sub_cancel' hfirst, Char.ofNat_toNat]
    have hi : c.toNat - 97 < 26 := by omega
    have hupper := hshift _ hi
    have happly := hsame _ hi
    rw [hletter] at hupper happly
    rw [hupper, happly]
  · have hother : c.toUpper = c := dif_neg hc
    rw [hother]

theorem toUpper_map_toUpper (s : List Char) : toUpper (s.map Char.toUpper) = toUpper s := by
  rw [toUpper, List.flatMap_map]
  exact List.flatMap_congr fun c _ => upper_toUpper c

theorem toUpper_eq_boundary {c d : Char} (hd : isBoundary d = true) : c.toUpper = d ↔ c = d := by
  constructor
  · intro h
    refine eq_of_mem_upper ?_ hd
    rw [← upper_toUpper, h, upper_boundary hd]
    exact List.mem_singleton_self d
  · intro h
    subst h
    refine eq_of_mem_upper ?_ hd
    rw [upper_toUpper, upper_boundary hd]
    exact List.mem_singleton_self c

end NestedRows.Text
