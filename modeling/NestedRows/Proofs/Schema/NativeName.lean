import NestedRows.Proofs.Schema.Affinity
import NestedRows.Proofs.Text.Words
/-!
# Decorated type names

The type of a native name is that of its leading word. Letters of another case, blanks around the name,
parameters behind the leading word and modifiers at the end do not change which word that is. A name with
them still comes in three parts (`NativeName`): blanks, the leading word, and what is made up of parameters and
modifiers (`Trailing`). Of this, upper case keeps the form and dropping the parameters leaves nothing that
could go on the word.
-/

namespace NestedRows

/-! ### What stands behind the leading word -/

/-- Whether `c` belongs to a leading word: no blank, and not the beginning of parameters. -/
def isLeading (c : Char) : Bool := !Text.isBlank c && c != '('

/-- One way to decorate the name of a type. -/
inductive Decorates : List Char → List Char → Prop
  /-- Letters from `a` to `z` are in another case. -/
  | recase {s t : List Char} (h : s.map Char.toUpper = t.map Char.toUpper) : Decorates s t
  /-- Blanks stand around the name. -/
  | pad {s before after : List Char} (hbefore : ∀ c ∈ before, Text.isBlank c = true)
      (hafter : ∀ c ∈ after, Text.isBlank c = true) : Decorates s (before ++ s ++ after)
  /-- A parameter stands directly behind the leading word. -/
  | parameter {before word rest gap p : List Char} (hbefore : ∀ c ∈ before, Text.isBlank c = true)
      (hne : word ≠ []) (hword : ∀ c ∈ word, isLeading c = true) (hrest : ∀ c ∈ rest.head?, isLeading c = false)
      (hgap : ∀ c ∈ gap, Text.isBlank c = true) (hp : ')' ∉ p) :
      Decorates (before ++ word ++ rest) (before ++ word ++ (gap ++ '(' :: p ++ ')' :: rest))
  /-- Modifiers stand at the end. -/
  | modify {s gap modifiers : List Char} (hne : gap ≠ []) (hgap : ∀ c ∈ gap, Text.isBlank c = true)
      (hmodifiers : '(' ∉ modifiers) : Decorates s (s ++ gap ++ modifiers)

/-- What may stand behind a leading word: parameters, and then modifiers. -/
inductive Trailing : List Char → Prop
  | modifiers {rest : List Char} (hopen : '(' ∉ rest) (hstart : ∀ c ∈ rest.head?, Text.isBlank c = true) :
      Trailing rest
  | parameter {gap p rest : List Char} (hgap : ∀ c ∈ gap, Text.isBlank c = true) (hp : ')' ∉ p)
      (hrest : Trailing rest) : Trailing (gap ++ '(' :: p ++ ')' :: rest)

theorem isLeading_of_isBlank {c : Char} (hc : Text.isBlank c = true) : isLeading c = false := by
  rw [isLeading, hc]
  rfl

theorem isBlank_of_isLeading {c : Char} (hc : isLeading c = true) : Text.isBlank c = false := by
  rw [isLeading, Bool.and_eq_true] at hc
  simpa using hc.1

theorem isBoundary_of_not_isLeading {c : Char} (hc : ¬ isLeading c = true) : Text.isBoundary c = true := by
  rw [isLeading, Bool.and_eq_true, not_and_or] at hc
  cases hc with
  | inl hblank => exact Text.isBoundary_of_isBlank (by simpa using hblank)
  | inr hopen =>
    obtain rfl : c = '(' := by simpa using hopen
    exact Text.isBoundary_open

namespace Trailing

variable {rest : List Char}

theorem head? (h : Trailing rest) : ∀ c ∈ rest.head?, isLeading c = false := by
  intro c hc
  cases h with
  | modifiers _ hstart => exact isLeading_of_isBlank (hstart c hc)
  | @parameter gap _ _ hgap _ _ =>
    cases gap with
    | nil =>
      obtain rfl := Option.some.inj hc
      decide +kernel
    | cons d gap =>
      obtain rfl := Option.some.inj hc
      exact isLeading_of_isBlank (hgap d List.mem_cons_self)

theorem append {gap modifiers : List Char} (h : Trailing rest) (hgap : ∀ c ∈ gap, Text.isBlank c = true)
    (hstart : gap = [] → modifiers = []) (hmodifiers : '(' ∉ modifiers) : Trailing (rest ++ (gap ++ modifiers)) := by
  induction h with
  | @modifiers rest hopen hhead =>
    refine .modifiers ?_ ?_
    · have hopen' : '(' ∉ gap := fun hmem => absurd (hgap _ hmem) (by decide +kernel)
      simp [hopen, hopen', hmodifiers]
    · cases rest with
      | cons c rest => exact hhead
      | nil =>
        cases gap with
        | cons c gap => simpa using hgap c List.mem_cons_self
        | nil => simp [hstart rfl]
  | @parameter before p rest hbefore hp _ ih =>
    have hassoc : before ++ '(' :: p ++ ')' :: rest ++ (gap ++ modifiers)
        = before ++ '(' :: p ++ ')' :: (rest ++ (gap ++ modifiers)) := by
      rw [List.append_assoc, List.cons_append]
    rw [hassoc]
    exact .parameter hbefore hp ih

theorem rdropWhile (h : Trailing rest) : Trailing (rest.rdropWhile Text.isBlank) := by
  induction h with
  | @modifiers rest hopen hstart =>
    obtain ⟨after, hafter⟩ := List.rdropWhile_prefix Text.isBlank rest
    refine .modifiers (fun hmem => hopen (hafter ▸ List.mem_append_left _ hmem)) ?_
    rw [← hafter] at hstart
    cases hleft : rest.rdropWhile Text.isBlank with
    | nil => simp
    | cons c left =>
      rw [hleft] at hstart
      exact hstart
  | parameter hgap hp _ ih =>
    rw [Text.rdropWhile_append_cons rfl]
    exact .parameter hgap hp ih

end Trailing

/-! ### Letters of another case -/

section Recase

variable {s t : List Char}

theorem recase_mem (h : s.map Char.toUpper = t.map Char.toUpper) {d : Char} (hd : d ∈ t) :
    ∃ c ∈ s, c.toUpper = d.toUpper := by
  have hmem : d.toUpper ∈ s.map Char.toUpper := h ▸ List.mem_map_of_mem hd
  exact List.mem_map.mp hmem

theorem eq_of_toUpper_eq {c d : Char} (h : c.toUpper = d.toUpper) (hc : Text.isBoundary c = true) : d = c := by
  rw [(Text.toUpper_eq_boundary hc).mpr rfl] at h
  exact (Text.toUpper_eq_boundary hc).mp h.symm

theorem notMem_recase (h : s.map Char.toUpper = t.map Char.toUpper) {mark : Char}
    (hmark : Text.isBoundary mark = true) (hs : mark ∉ s) : mark ∉ t := by
  intro ht
  obtain ⟨c, hc, heq⟩ := recase_mem h ht
  exact hs (eq_of_toUpper_eq heq.symm hmark ▸ hc)

theorem blanks_recase (h : s.map Char.toUpper = t.map Char.toUpper)
    (hs : ∀ c ∈ s, Text.isBlank c = true) : ∀ c ∈ t, Text.isBlank c = true := by
  intro d hd
  obtain ⟨c, hc, heq⟩ := recase_mem h hd
  rw [eq_of_toUpper_eq heq (Text.isBoundary_of_isBlank (hs c hc))]
  exact hs c hc

theorem leading_recase (h : s.map Char.toUpper = t.map Char.toUpper)
    (hs : ∀ c ∈ s, isLeading c = true) : ∀ c ∈ t, isLeading c = true := by
  intro d hd
  obtain ⟨c, hc, heq⟩ := recase_mem h hd
  by_contra hother
  have hsame : c = d := eq_of_toUpper_eq heq.symm (isBoundary_of_not_isLeading hother)
  exact hother (hsame ▸ hs c hc)

theorem Trailing.recase {rest other : List Char} (h : Trailing rest)
    (hcase : rest.map Char.toUpper = other.map Char.toUpper) : Trailing other := by
  induction h generalizing other with
  | @modifiers rest hopen hstart =>
    refine .modifiers (notMem_recase hcase Text.isBoundary_open hopen) ?_
    intro d hd
    obtain ⟨tail, rfl⟩ := List.head?_eq_some_iff.mp hd
    obtain ⟨c, rest, rfl, hc, -⟩ := List.map_eq_cons_iff.mp hcase
    have hblank : Text.isBlank c = true := hstart c rfl
    rwa [eq_of_toUpper_eq hc (Text.isBoundary_of_isBlank hblank)]
  | @parameter gap p rest hgap hp _ ih =>
    rw [List.map_append, List.map_append, List.map_cons, List.map_cons] at hcase
    obtain ⟨front, back, rfl, hfront, hback⟩ := List.map_eq_append_iff.mp hcase.symm
    obtain ⟨gap', inner, rfl, hgap', hinner⟩ := List.map_eq_append_iff.mp hfront
    obtain ⟨c, p', rfl, hc, hp'⟩ := List.map_eq_cons_iff.mp hinner
    obtain ⟨d, rest', rfl, hd, hrest'⟩ := List.map_eq_cons_iff.mp hback
    obtain rfl : c = '(' := eq_of_toUpper_eq hc.symm Text.isBoundary_open
    obtain rfl : d = ')' := eq_of_toUpper_eq hd.symm Text.isBoundary_close
    exact .parameter (blanks_recase hgap'.symm hgap) (notMem_recase hp'.symm Text.isBoundary_close hp)
      (ih hrest'.symm)

end Recase

theorem Trailing.toUpper {rest : List Char} (h : Trailing rest) : Trailing (Text.toUpper rest) := by
  induction h with
  | @modifiers rest hopen hstart =>
    refine .modifiers (fun hmem => hopen ((Text.mem_toUpper_boundary Text.isBoundary_open).mp hmem)) ?_
    cases rest with
    | nil => simp [Text.toUpper]
    | cons c rest =>
      have hc : Text.isBlank c = true := hstart c rfl
      rw [Text.toUpper_cons, Text.upper_boundary (Text.isBoundary_of_isBlank hc)]
      exact hstart
  | @parameter gap p rest hgap hp _ ih =>
    have hgap' : Text.toUpper gap = gap :=
      Text.toUpper_boundaries fun c hc => Text.isBoundary_of_isBlank (hgap c hc)
    have hopen : Text.upperMap.apply '(' = ['('] := Text.upper_boundary Text.isBoundary_open
    have hclose : Text.upperMap.apply ')' = [')'] := Text.upper_boundary Text.isBoundary_close
    have hp' : ')' ∉ Text.toUpper p := fun hmem => hp ((Text.mem_toUpper_boundary Text.isBoundary_close).mp hmem)
    rw [Text.toUpper_append, Text.toUpper_append, Text.toUpper_cons, Text.toUpper_cons, hgap', hopen, hclose]
    exact .parameter hgap hp' ih

/-! ### Parameters are dropped -/

theorem startsParameters_leading {c : Char} (hc : isLeading c = true) (rest : List Char) :
    startsParameters (c :: rest) = false := by
  have hopen : c ≠ '(' := by
    rw [isLeading, Bool.and_eq_true] at hc
    simpa using hc.2
  rw [startsParameters, List.dropWhile_cons_of_neg (Bool.eq_false_iff.mp (isBlank_of_isLeading hc))]
  split
  · next heq => exact absurd (List.cons.inj heq).1 hopen
  · rfl

theorem dropParameters_leading {word : List Char} (hword : ∀ c ∈ word, isLeading c = true) (rest : List Char) :
    dropParameters false (word ++ rest) = word ++ dropParameters false rest := by
  induction word with
  | nil => rfl
  | cons c word ih =>
    have hstart := startsParameters_leading (hword c List.mem_cons_self) (word ++ rest)
    rw [List.cons_append, dropParameters, hstart, ih fun d hd => hword d (List.mem_cons_of_mem _ hd)]
    rfl

theorem dropParameters_of_notMem {rest : List Char} (hopen : '(' ∉ rest) : dropParameters false rest = rest := by
  induction rest with
  | nil => rfl
  | cons c rest ih =>
    have hstart : startsParameters (c :: rest) = false := by
      rw [startsParameters]
      split
      · next heq => exact absurd (List.dropWhile_subset _ (heq ▸ List.mem_cons_self)) hopen
      · rfl
    rw [dropParameters, hstart, ih (List.not_mem_of_not_mem_cons hopen)]
    rfl

theorem dropParameters_inside {p : List Char} (hp : ')' ∉ p) (rest : List Char) :
    dropParameters true (p ++ ')' :: rest) = dropParameters false rest := by
  induction p with
  | nil => rfl
  | cons c p ih =>
    have hc : (c != ')') = true := bne_iff_ne.mpr (Ne.symm (List.ne_of_not_mem_cons hp))
    rw [List.cons_append, dropParameters, if_pos rfl, hc, ih (List.not_mem_of_not_mem_cons hp)]

theorem dropParameters_parameter {gap p : List Char} (hgap : ∀ c ∈ gap, Text.isBlank c = true) (hp : ')' ∉ p)
    (rest : List Char) :
    dropParameters false (gap ++ '(' :: p ++ ')' :: rest) = dropParameters false rest := by
  have hdrop : (gap ++ '(' :: (p ++ ')' :: rest)).dropWhile Text.isBlank = '(' :: (p ++ ')' :: rest) :=
    Text.dropWhile_run hgap fun c hc => Option.some.inj hc ▸ (by decide +kernel)
  have hstart : startsParameters (gap ++ '(' :: (p ++ ')' :: rest)) = true := by
    rw [startsParameters, hdrop]
    simp
  rw [List.append_assoc, List.cons_append]
  cases gap with
  | nil =>
    rw [List.nil_append] at hstart ⊢
    rw [dropParameters, hstart]
    exact dropParameters_inside hp rest
  | cons c gap =>
    have hinside : ')' ∉ gap ++ '(' :: p := by
      have hgap' : ')' ∉ gap := fun hmem => absurd (hgap _ (List.mem_cons_of_mem _ hmem)) (by decide +kernel)
      simp [hgap', hp]
    rw [List.cons_append] at hstart ⊢
    rw [dropParameters, hstart, ← List.cons_append, ← List.append_assoc]
    exact dropParameters_inside hinside rest

theorem Trailing.dropParameters_head? {rest : List Char} (h : Trailing rest) :
    ∀ c ∈ (dropParameters false rest).head?, Text.isBlank c = true := by
  induction h with
  | modifiers hopen hstart =>
    rw [dropParameters_of_notMem hopen]
    exact hstart
  | parameter hgap hp _ ih =>
    rw [dropParameters_parameter hgap hp]
    exact ih

/-! ### Native names in parts -/

/-- A native name: blanks, the leading word, and what stands behind it. -/
structure NativeName where
  before : List Char
  leading : List Char
  rest : List Char
  isBlank_before : ∀ c ∈ before, Text.isBlank c = true
  leading_ne_nil : leading ≠ []
  isLeading_leading : ∀ c ∈ leading, isLeading c = true
  trailing_rest : Trailing rest

namespace NativeName

def text (n : NativeName) : List Char := n.before ++ n.leading ++ n.rest

theorem leadingWord?_text (n : NativeName) : leadingWord? n.text = some (Text.toUpper n.leading) := by
  have hblank : ∀ c ∈ n.leading, Text.isBlank c = false :=
    fun c hc => isBlank_of_isLeading (n.isLeading_leading c hc)
  have hupper : ∀ c ∈ Text.toUpper n.leading, isLeading c = true := by
    intro c hc
    by_contra hother
    have hmem := (Text.mem_toUpper_boundary (isBoundary_of_not_isLeading hother)).mp hc
    exact hother (n.isLeading_leading c hmem)
  rw [leadingWord?, text, Text.trim_append n.isBlank_before hblank n.leading_ne_nil, Text.toUpper_append,
    dropParameters_leading hupper]
  exact Text.firstWord?_append (fun c hc => isBlank_of_isLeading (hupper c hc))
    (Text.toUpper_ne_nil n.leading_ne_nil) n.trailing_rest.rdropWhile.toUpper.dropParameters_head?

/-- The parts of a text are found by going on as long as a part does. -/
theorem parts_eq {before word rest : List Char} (hbefore : ∀ c ∈ before, Text.isBlank c = true)
    (hne : word ≠ []) (hword : ∀ c ∈ word, isLeading c = true)
    (hrest : ∀ c ∈ rest.head?, isLeading c = false) :
    (before ++ word ++ rest).takeWhile Text.isBlank = before ∧
    ((before ++ word ++ rest).dropWhile Text.isBlank).takeWhile isLeading = word ∧
    ((before ++ word ++ rest).dropWhile Text.isBlank).dropWhile isLeading = rest := by
  have hstop : ∀ c ∈ (word ++ rest).head?, Text.isBlank c = false :=
    Text.forall_head?_append hne fun c hc => isBlank_of_isLeading (hword c hc)
  rw [List.append_assoc, Text.takeWhile_run hbefore hstop, Text.dropWhile_run hbefore hstop,
    Text.takeWhile_run hword hrest, Text.dropWhile_run hword hrest]
  exact ⟨rfl, rfl, rfl⟩

/-- A text without parentheses that has a word is a native name. -/
theorem exists_text_eq {s : List Char} (hword : ∃ c ∈ s, Text.isBlank c = false) (hopen : '(' ∉ s) :
    ∃ n : NativeName, n.text = s := by
  obtain ⟨c, hc, hother⟩ := hword
  have hsplit : s.takeWhile Text.isBlank ++ s.dropWhile Text.isBlank = s := List.takeWhile_append_dropWhile
  generalize hbefore : s.takeWhile Text.isBlank = before at hsplit
  generalize htail : s.dropWhile Text.isBlank = tail at hsplit
  have hblank : ∀ d ∈ before, Text.isBlank d = true := fun d hd => List.mem_takeWhile_imp (hbefore ▸ hd)
  have hopen' : '(' ∉ tail := fun hmem => hopen (hsplit ▸ List.mem_append_right _ hmem)
  have hne : tail.takeWhile isLeading ≠ [] := by
    have htailne : tail ≠ [] := by
      intro hnil
      rw [hnil, List.append_nil] at hsplit
      rw [hblank c (hsplit ▸ hc)] at hother
      cases hother
    obtain ⟨d, tail, rfl⟩ := List.exists_cons_of_ne_nil htailne
    have hfirst : Text.isBlank d = false := Text.head?_dropWhile d (by rw [htail]; rfl)
    have hsign : d ≠ '(' := Ne.symm (List.ne_of_not_mem_cons hopen')
    have hleading : isLeading d = true := by simp [isLeading, hfirst, hsign]
    rw [List.takeWhile_cons_of_pos hleading]
    exact List.cons_ne_nil _ _
  have hrest : Trailing (tail.dropWhile isLeading) := by
    have hsub : '(' ∉ tail.dropWhile isLeading := fun hmem => hopen' (List.dropWhile_subset _ hmem)
    refine .modifiers hsub fun d hd => ?_
    have hnot : isLeading d = false := Text.head?_dropWhile d hd
    have hsign : d ≠ '(' := by
      intro heq
      exact hsub (heq ▸ List.mem_of_mem_head? hd)
    simpa [isLeading, hsign] using hnot
  refine ⟨⟨before, _, _, hblank, hne, fun d hd => List.mem_takeWhile_imp hd, hrest⟩, ?_⟩
  rw [text, List.append_assoc, List.takeWhile_append_dropWhile, hsplit]

end NativeName

/-- A decorated native name is a native name with the same leading word in upper case. -/
theorem Decorates.exists_text_eq {n : NativeName} {t : List Char} (h : Decorates n.text t) :
    ∃ m : NativeName, m.text = t ∧ Text.toUpper m.leading = Text.toUpper n.leading := by
  generalize hs : n.text = s at h
  cases h with
  | recase hcase =>
    rw [← hs, NativeName.text, List.map_append, List.map_append] at hcase
    obtain ⟨front, rest, rfl, hfront, hrest⟩ := List.map_eq_append_iff.mp hcase.symm
    obtain ⟨before, leading, rfl, hbefore, hleading⟩ := List.map_eq_append_iff.mp hfront
    have hne : leading ≠ [] := by
      intro hnil
      rw [hnil] at hleading
      exact n.leading_ne_nil (List.map_eq_nil_iff.mp hleading.symm)
    refine ⟨⟨before, leading, rest, blanks_recase hbefore.symm n.isBlank_before, hne,
      leading_recase hleading.symm n.isLeading_leading, n.trailing_rest.recase hrest.symm⟩, rfl, ?_⟩
    rw [← Text.toUpper_map_toUpper leading, hleading, Text.toUpper_map_toUpper]
  | @pad _ before after hbefore hafter =>
    have hblank : ∀ c ∈ before ++ n.before, Text.isBlank c = true :=
      fun c hc => (List.mem_append.mp hc).elim (hbefore c) (n.isBlank_before c)
    have hrest := n.trailing_rest.append hafter (fun _ => rfl) List.not_mem_nil
    refine ⟨{ n with before := before ++ n.before, rest := _, isBlank_before := hblank, trailing_rest := hrest },
      ?_, rfl⟩
    simp [NativeName.text, ← hs]
  | @parameter before word rest gap p hbefore hne hword hrest hgap hp =>
    have hown := NativeName.parts_eq n.isBlank_before n.leading_ne_nil n.isLeading_leading n.trailing_rest.head?
    have hother := NativeName.parts_eq hbefore hne hword hrest
    rw [← hs] at hother
    obtain rfl : before = n.before := hother.1.symm.trans hown.1
    obtain rfl : word = n.leading := hother.2.1.symm.trans hown.2.1
    obtain rfl : rest = n.rest := hother.2.2.symm.trans hown.2.2
    exact ⟨{ n with rest := _, trailing_rest := .parameter hgap hp n.trailing_rest }, rfl, rfl⟩
  | @modify _ gap modifiers hne hgap hmodifiers =>
    have hrest := n.trailing_rest.append hgap (fun hnil => absurd hnil hne) hmodifiers
    refine ⟨{ n with rest := _, trailing_rest := hrest }, ?_, rfl⟩
    simp [NativeName.text, ← hs]

/-- Decorations as often as one likes, in any order. -/
theorem leadingWord?_of_decorates {s t : List Char} (hword : ∃ c ∈ s, Text.isBlank c = false) (hopen : '(' ∉ s)
    (h : Relation.ReflTransGen Decorates s t) : leadingWord? t = leadingWord? s := by
  obtain ⟨n, rfl⟩ := NativeName.exists_text_eq hword hopen
  have hname : ∃ m : NativeName, m.text = t ∧ Text.toUpper m.leading = Text.toUpper n.leading := by
    induction h with
    | refl => exact ⟨n, rfl, rfl⟩
    | tail _ hstep ih =>
      obtain ⟨m, rfl, hm⟩ := ih
      obtain ⟨k, hk, hupper⟩ := hstep.exists_text_eq
      exact ⟨k, hk, hupper.trans hm⟩
  obtain ⟨m, rfl, hupper⟩ := hname
  rw [m.leadingWord?_text, n.leadingWord?_text, hupper]

namespace FieldType

theorem ofNative?_eq {patterns : List AffinityPattern} (hperm : patterns.Perm affinityPatterns) (s : String) :
    ofNative? s = (leadingWord? s.toList).bind (typeAmong patterns) := by
  rw [ofNative?]
  cases leadingWord? s.toList with
  | none => rfl
  | some word =>
    rw [Option.bind_some, typeAmong_eq hperm, Option.map_eq_bind]
    rfl

/-- No word is in two patterns, so the type of a native name is the type of its leading word in whatever order
the patterns are tried. And decorations do not change it. -/
theorem ofNative?_unambiguous :
    (affinityPatterns.Pairwise fun a b => Apart a.words b.words) ∧
    (∀ patterns : List AffinityPattern, patterns.Perm affinityPatterns → ∀ s,
      ofNative? s = (leadingWord? s.toList).bind (typeAmong patterns)) ∧
    ∀ s t : String, (∃ c ∈ s.toList, Text.isBlank c = false) → '(' ∉ s.toList →
      Relation.ReflTransGen Decorates s.toList t.toList → ofNative? t = ofNative? s := by
  refine ⟨affinityPatterns_apart, fun patterns hperm s => ofNative?_eq hperm s, ?_⟩
  intro s t hword hopen h
  rw [ofNative?, ofNative?, leadingWord?_of_decorates hword hopen h]

theorem ofNative?_unambiguous_varchar :
    (∃ c ∈ "varchar".toList, Text.isBlank c = false) ∧ '(' ∉ "varchar".toList ∧
      Relation.ReflTransGen Decorates "varchar".toList " VarChar (255) not null ".toList ∧
      ofNative? " VarChar (255) not null " = ofNative? "varchar" := by
  have hword : ∃ c ∈ "varchar".toList, Text.isBlank c = false := ⟨'v', by decide +kernel, by decide +kernel⟩
  have hopen : '(' ∉ "varchar".toList := by decide +kernel
  have hrecase : Decorates "varchar".toList ([] ++ "VarChar".toList ++ []) := .recase (by decide +kernel)
  have hblank : ∀ c ∈ [' '], Text.isBlank c = true := List.all_eq_true.mp (by decide +kernel)
  have hleading : ∀ c ∈ "VarChar".toList, isLeading c = true := List.all_eq_true.mp (by decide +kernel)
  have hparameter : Decorates ([] ++ "VarChar".toList ++ [])
      ([] ++ "VarChar".toList ++ ([' '] ++ '(' :: "255".toList ++ ')' :: [])) :=
    .parameter (by simp) (by simp) hleading (by simp) hblank (by decide +kernel)
  have hmodify : Decorates "VarChar (255)".toList ("VarChar (255)".toList ++ [' '] ++ "not null".toList) :=
    .modify (by simp) hblank (by decide +kernel)
  have hpad : Decorates "VarChar (255) not null".toList ([' '] ++ "VarChar (255) not null".toList ++ [' ']) :=
    .pad hblank hblank
  have h : Relation.ReflTransGen Decorates "varchar".toList " VarChar (255) not null ".toList :=
    .tail (.tail (.tail (.single hrecase) hparameter) hmodify) hpad
  exact ⟨hword, hopen, h, ofNative?_unambiguous.2.2 _ _ hword hopen h⟩

end FieldType

end NestedRows
