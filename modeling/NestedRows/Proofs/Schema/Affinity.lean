import NestedRows.Schema.FieldType
import Mathlib.Computability.Language
import Mathlib.Data.List.Pairwise
import Mathlib.Tactic.Abel
/-!
# Patterns of type names

Five patterns say which words are names of a type. No word belongs to two of them, so it does not matter which
is tried first. The rules that are tried list the beginnings of such words instead, and they find the same
types: a pattern is the sum of its rules, and no beginning in one rule continues a beginning in another.
-/

namespace NestedRows

open Computability

/-! ### Patterns of words -/

/-- The one word `text`. -/
def literal (text : String) : Language Char := {text.toList}

/-- The words of `l`, or nothing. -/
def optional (l : Language Char) : Language Char := 1 + l

/-- One character of a kind. -/
def oneOf (p : Char → Bool) : Language Char := {word | ∃ c, p c = true ∧ word = [c]}

/-- The words that are names of a type. -/
structure AffinityPattern where
  words : Language Char
  fieldType : FieldType

/-- The patterns of integers, serial numbers, numbers with a point, texts and truth values. -/
def affinityPatterns : List AffinityPattern := [
  ⟨optional (literal "TINY" + literal "SMALL" + literal "MEDIUM" + literal "BIG") * literal "INT" *
    optional (literal "EGER") * (oneOf Text.isDigit)∗, .int⟩,
  ⟨optional (literal "SMALL" + literal "BIG") * literal "SERIAL" * (oneOf Text.isDigit)∗, .int⟩,
  ⟨literal "REAL" + literal "FLOAT" * (oneOf Text.isWordChar)∗ + literal "DOUBLE" * (oneOf Text.isWordChar)∗ +
    literal "NUMERIC" + literal "DECIMAL", .float⟩,
  ⟨optional (literal "N") * optional (literal "VAR") * literal "CHAR" * (oneOf Text.isWordChar)∗ +
    literal "VARYING" + literal "TEXT" + literal "CLOB" + literal "UUID", .string⟩,
  ⟨literal "BOOL" * (oneOf Text.isWordChar)∗, .bool⟩]

open Classical in
/-- The type of the first pattern that has the word. -/
noncomputable def typeAmong (patterns : List AffinityPattern) (word : List Char) : Option FieldType :=
  (patterns.find? fun pattern => decide (word ∈ pattern.words)).map AffinityPattern.fieldType

/-! ### The rules are the patterns -/

def AffinityTail.words : AffinityTail → Language Char
  | nothing => 1
  | digits => (oneOf Text.isDigit)∗
  | word => (oneOf Text.isWordChar)∗

/-- The words that a rule covers. -/
def AffinityRule.words (r : AffinityRule) : Language Char :=
  (r.heads.map fun head => literal head * r.tail.words).sum

theorem literal_mul (a b : String) : literal a * literal b = literal (a ++ b) := by
  rw [literal, literal, literal, String.toList_append]
  exact Set.image2_singleton

theorem mem_literal_mul {text : String} {l : Language Char} {word : List Char} :
    word ∈ literal text * l ↔ ∃ rest ∈ l, text.toList ++ rest = word := by
  rw [Language.mem_mul]
  constructor
  · rintro ⟨_, rfl, rest, hrest, hword⟩
    exact ⟨rest, hrest, hword⟩
  · rintro ⟨rest, hrest, hword⟩
    exact ⟨text.toList, rfl, rest, hrest, hword⟩

theorem mem_list_sum {ls : List (Language Char)} {word : List Char} :
    word ∈ ls.sum ↔ ∃ l ∈ ls, word ∈ l := by
  induction ls with
  | nil => simp
  | cons l ls ih => rw [List.sum_cons, Language.mem_add, ih, List.exists_mem_cons_iff]

theorem mem_kstar_oneOf {p : Char → Bool} {word : List Char} :
    word ∈ (oneOf p)∗ ↔ ∀ c ∈ word, p c = true := by
  rw [Language.mem_kstar]
  constructor
  · rintro ⟨parts, rfl, hparts⟩ c hc
    obtain ⟨part, hpart, hmem⟩ := List.mem_flatten.mp hc
    obtain ⟨d, hd, rfl⟩ := hparts part hpart
    exact List.mem_singleton.mp hmem ▸ hd
  · intro h
    refine ⟨word.map fun c => [c], by simp [List.flatten_eq_flatMap, List.flatMap_map], ?_⟩
    intro part hpart
    obtain ⟨c, hc, rfl⟩ := List.mem_map.mp hpart
    exact ⟨c, h c hc, rfl⟩

theorem AffinityTail.accepts_iff {tail : AffinityTail} {word : List Char} :
    tail.accepts word = true ↔ word ∈ tail.words := by
  cases tail with
  | nothing => rw [accepts, words, List.isEmpty_iff, Language.mem_one]
  | digits => rw [accepts, words, mem_kstar_oneOf, List.all_eq_true]
  | word => rw [accepts, words, mem_kstar_oneOf, List.all_eq_true]

theorem AffinityRule.mem_words {r : AffinityRule} {word : List Char} :
    word ∈ r.words ↔ ∃ head ∈ r.heads, ∃ rest ∈ r.tail.words, head.toList ++ rest = word := by
  rw [words, mem_list_sum]
  simp only [List.mem_map, exists_exists_and_eq_and, mem_literal_mul]

theorem mem_sum_words {rules : List AffinityRule} {word : List Char} :
    word ∈ (rules.map AffinityRule.words).sum ↔ ∃ r ∈ rules, word ∈ r.words := by
  rw [mem_list_sum]
  simp only [List.mem_map, exists_exists_and_eq_and]

theorem AffinityRule.covers_iff {r : AffinityRule} {word : List Char} :
    r.covers word = true ↔ word ∈ r.words := by
  rw [covers, List.any_eq_true, mem_words]
  refine exists_congr fun head => and_congr_right fun _ => ?_
  simp only [← List.isPrefixOf?_eq_some_iff_append_eq]
  cases head.toList.isPrefixOf? word with
  | none => simp
  | some tail => simp [AffinityTail.accepts_iff]

/-- The rules that together make each pattern. -/
def affinityGroups : List (List AffinityRule × FieldType) := [
  (affinityRules.take 1, .int), ((affinityRules.drop 1).take 1, .int), ((affinityRules.drop 2).take 2, .float),
  ((affinityRules.drop 4).take 2, .string), (affinityRules.drop 6, .bool)]

theorem affinityPatterns_eq : affinityPatterns = affinityGroups.map fun group =>
    ⟨(group.1.map AffinityRule.words).sum, group.2⟩ := by
  simp only [affinityPatterns, affinityGroups, affinityRules, List.take, List.drop, AffinityRule.words,
    AffinityTail.words, List.map_cons, List.map_nil, List.sum_cons, List.sum_nil, optional, one_mul, mul_one,
    add_mul, mul_add, literal_mul, add_zero, String.reduceAppend, List.cons.injEq, AffinityPattern.mk.injEq,
    and_true, true_and]
  exact ⟨by abel, by abel, by abel⟩

/-! ### No word belongs to two patterns -/

/-- No word is in both languages. -/
def Apart (l m : Language Char) : Prop := ∀ word, word ∈ l → word ∉ m

theorem AffinityRule.apart_words {a b : AffinityRule}
    (h : ∀ x ∈ a.heads, ∀ y ∈ b.heads, ¬ x.toList <+: y.toList ∧ ¬ y.toList <+: x.toList) :
    Apart a.words b.words := by
  intro word ha hb
  obtain ⟨x, hx, restx, -, hwordx⟩ := mem_words.mp ha
  obtain ⟨y, hy, resty, -, hwordy⟩ := mem_words.mp hb
  obtain ⟨hxy, hyx⟩ := h x hx y hy
  cases List.prefix_or_prefix_of_prefix ⟨restx, hwordx⟩ ⟨resty, hwordy⟩ with
  | inl hprefix => exact hxy hprefix
  | inr hprefix => exact hyx hprefix

theorem affinityRules_apart : affinityRules.Pairwise fun a b => Apart a.words b.words := by
  have hheads : affinityRules.Pairwise fun a b =>
      ∀ x ∈ a.heads, ∀ y ∈ b.heads, ¬ x.toList <+: y.toList ∧ ¬ y.toList <+: x.toList := by
    decide +kernel
  exact hheads.imp AffinityRule.apart_words

theorem affinityPatterns_apart : affinityPatterns.Pairwise fun a b => Apart a.words b.words := by
  have hgroups : (affinityGroups.map Prod.fst).Pairwise fun a b =>
      ∀ x ∈ a, ∀ y ∈ b, Apart x.words y.words :=
    (List.pairwise_flatten.mp affinityRules_apart).2
  rw [affinityPatterns_eq, List.pairwise_map]
  refine (List.pairwise_map.mp hgroups).imp fun {a b} h => ?_
  intro word ha hb
  obtain ⟨x, hx, hword⟩ := mem_sum_words.mp ha
  obtain ⟨y, hy, hword'⟩ := mem_sum_words.mp hb
  exact h x hx y hy word hword hword'

/-- Where at most one member of a list has a property, the first that has it is the one that has it. -/
theorem find?_map_eq_some_iff {α β : Type} {l : List α} {p : α → Bool} {f : α → β} {value : β}
    (hunique : ∀ a ∈ l, ∀ b ∈ l, p a = true → p b = true → a = b) :
    (l.find? p).map f = some value ↔ ∃ a ∈ l, p a = true ∧ f a = value := by
  rw [Option.map_eq_some_iff]
  constructor
  · rintro ⟨a, hfind, hvalue⟩
    exact ⟨a, List.mem_of_find?_eq_some hfind, List.find?_some hfind, hvalue⟩
  · rintro ⟨a, ha, hp, hvalue⟩
    cases hfind : l.find? p with
    | none => exact absurd hp (List.find?_eq_none.mp hfind a ha)
    | some b =>
      obtain rfl := hunique a ha b (List.mem_of_find?_eq_some hfind) hp (List.find?_some hfind)
      exact ⟨a, rfl, hvalue⟩

theorem eq_of_pairwise_apart {α : Type} {l : List α} {words : α → Language Char} {word : List Char}
    (h : l.Pairwise fun a b => Apart (words a) (words b)) {a b : α} (ha : a ∈ l) (hb : b ∈ l)
    (hworda : word ∈ words a) (hwordb : word ∈ words b) : a = b := by
  by_contra hne
  have : Std.Symm fun a b => Apart (words a) (words b) :=
    ⟨fun _ _ h word hword hword' => h word hword' hword⟩
  exact h.forall ha hb hne word hworda hwordb

theorem typeAmong_eq_some_iff {patterns : List AffinityPattern} (hperm : patterns.Perm affinityPatterns)
    {word : List Char} {type : FieldType} :
    typeAmong patterns word = some type ↔ ∃ p ∈ affinityPatterns, word ∈ p.words ∧ p.fieldType = type := by
  rw [typeAmong, find?_map_eq_some_iff]
  · simp only [hperm.mem_iff, decide_eq_true_eq]
  · intro a ha b hb hworda hwordb
    simp only [decide_eq_true_eq] at hworda hwordb
    exact eq_of_pairwise_apart affinityPatterns_apart (hperm.mem_iff.mp ha) (hperm.mem_iff.mp hb)
      hworda hwordb

theorem find?_covers_eq_some_iff {word : List Char} {type : FieldType} :
    (affinityRules.find? (·.covers word)).map AffinityRule.fieldType = some type ↔
      ∃ r ∈ affinityRules, word ∈ r.words ∧ r.fieldType = type := by
  rw [find?_map_eq_some_iff]
  · simp only [AffinityRule.covers_iff]
  · intro a ha b hb hworda hwordb
    exact eq_of_pairwise_apart affinityRules_apart ha hb (AffinityRule.covers_iff.mp hworda)
      (AffinityRule.covers_iff.mp hwordb)

/-- The rules find the type that the patterns give a word, in whatever order these are tried. -/
theorem typeAmong_eq {patterns : List AffinityPattern} (hperm : patterns.Perm affinityPatterns)
    (word : List Char) :
    typeAmong patterns word = (affinityRules.find? (·.covers word)).map AffinityRule.fieldType := by
  refine Option.ext fun type => ?_
  rw [typeAmong_eq_some_iff hperm, find?_covers_eq_some_iff, affinityPatterns_eq]
  have htypes : ∀ group ∈ affinityGroups, ∀ r ∈ group.1, r.fieldType = group.2 := by decide +kernel
  have hrules : (affinityGroups.map Prod.fst).flatten = affinityRules := rfl
  constructor
  · rintro ⟨pattern, hpattern, hword, rfl⟩
    obtain ⟨group, hgroup, rfl⟩ := List.mem_map.mp hpattern
    obtain ⟨r, hr, hmem⟩ := mem_sum_words.mp hword
    rw [← hrules]
    exact ⟨r, List.mem_flatten.mpr ⟨group.1, List.mem_map_of_mem hgroup, hr⟩, hmem, htypes group hgroup r hr⟩
  · rintro ⟨r, hr, hword, rfl⟩
    rw [← hrules] at hr
    obtain ⟨rules, hrules, hr⟩ := List.mem_flatten.mp hr
    obtain ⟨group, hgroup, rfl⟩ := List.mem_map.mp hrules
    exact ⟨_, List.mem_map_of_mem hgroup, mem_sum_words.mpr ⟨r, hr, hword⟩, (htypes group hgroup r hr).symm⟩

end NestedRows
