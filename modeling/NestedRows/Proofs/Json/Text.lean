import NestedRows.Json.Printer
import Mathlib.Data.List.Basic
/-!
# The text of a value tells the value

Whole numbers, strings and truth values of one type have the same text only if they are the same. For
strings this rests on the escapes of characters being a prefix code: what a string's text begins with
tells its first character, and where the text of that character ends.

So does the text of a value that holds no number tell its own end, and two such values of any kinds and
depths have the same text only if they are the same (`Json.render_injective`).
-/

namespace NestedRows

theorem toDigits_injective {m n : Nat} (h : Nat.toDigits 10 m = Nat.toDigits 10 n) : m = n := by
  have hvalue := congrArg (Nat.ofDigitChars 10 · 0) h
  simpa only [Nat.ofDigitChars_ten_toDigits] using hvalue

theorem intDigits_injective : Function.Injective intDigits := by
  have hdigit : ∀ n : Nat, ∀ rest, Nat.toDigits 10 n ≠ '-' :: rest := by
    intro n rest h
    have := Nat.isDigit_of_mem_toDigits (b := 10) (n := n) (by decide) (by decide)
      (h ▸ List.mem_cons_self)
    simp at this
  intro m n h
  rw [intDigits, intDigits, Binary64.digitsOf, Binary64.digitsOf] at h
  split at h <;> split at h
  · have := toDigits_injective (List.cons.inj h).2
    omega
  · exact absurd h.symm (hdigit _ _)
  · exact absurd h (hdigit _ _)
  · have := toDigits_injective h
    omega

namespace Json

theorem hexDigit_inj {a b : Nat} (ha : a < 16) (hb : b < 16) (h : hexDigit a = hexDigit b) : a = b := by
  have hall : ∀ a < 16, ∀ b < 16, hexDigit a = hexDigit b → a = b := by decide
  exact hall a ha b hb h

def ofLetter? : Char → Option Char
  | '"' => some '"'
  | '\\' => some '\\'
  | 'b' => some '\x08'
  | 't' => some '\t'
  | 'n' => some '\n'
  | 'f' => some '\x0c'
  | 'r' => some '\r'
  | _ => none

/-- A character stands for itself, or a letter or a code behind a backslash stands for it. -/
theorem escaped_cases (c : Char) :
    escaped c = [c] ∧ c ≠ '\\' ∨
      (∃ letter, escaped c = ['\\', letter] ∧ ofLetter? letter = some c) ∨
      (escaped c = ['\\', 'u', '0', '0', hexDigit (c.toNat / 16), hexDigit (c.toNat % 16)] ∧
        c.toNat < 0x20) := by
  rw [escaped]
  split_ifs with h₁ h₂ h₃ h₄ h₅ h₆ h₇ h₈
  · exact .inr (.inl ⟨'"', rfl, by rw [h₁]; rfl⟩)
  · exact .inr (.inl ⟨'\\', rfl, by rw [h₂]; rfl⟩)
  · exact .inr (.inl ⟨'b', rfl, by rw [h₃]; rfl⟩)
  · exact .inr (.inl ⟨'t', rfl, by rw [h₄]; rfl⟩)
  · exact .inr (.inl ⟨'n', rfl, by rw [h₅]; rfl⟩)
  · exact .inr (.inl ⟨'f', rfl, by rw [h₆]; rfl⟩)
  · exact .inr (.inl ⟨'r', rfl, by rw [h₇]; rfl⟩)
  · exact .inr (.inr ⟨rfl, h₈⟩)
  · exact .inl ⟨rfl, h₂⟩

/-- What stands for a character in a string's text does not begin what stands for another. -/
theorem escaped_append_inj {c d : Char} {x y : List Char} (h : escaped c ++ x = escaped d ++ y) :
    c = d ∧ x = y := by
  rcases escaped_cases c with ⟨hc, hcne⟩ | ⟨l, hc, hl⟩ | ⟨hc, hclt⟩ <;>
    rcases escaped_cases d with ⟨hd, hdne⟩ | ⟨l', hd, hl'⟩ | ⟨hd, hdlt⟩ <;>
    rw [hc, hd] at h
  · exact List.cons.inj h
  · exact absurd (List.cons.inj h).1 hcne
  · exact absurd (List.cons.inj h).1 hcne
  · exact absurd (List.cons.inj h).1.symm hdne
  · obtain ⟨rfl, hrest⟩ := List.cons.inj (List.cons.inj h).2
    exact ⟨Option.some.inj (hl.symm.trans hl'), hrest⟩
  · obtain ⟨rfl, -⟩ := List.cons.inj (List.cons.inj h).2
    cases hl
  · exact absurd (List.cons.inj h).1.symm hdne
  · obtain ⟨rfl, -⟩ := List.cons.inj (List.cons.inj h).2
    cases hl'
  · simp only [List.cons_append, List.nil_append, List.cons.injEq, true_and] at h
    have hhigh := hexDigit_inj (by omega) (by omega) h.1
    have hlow := hexDigit_inj (by omega) (by omega) h.2.1
    exact ⟨Char.toNat_inj.mp (by omega), h.2.2⟩

theorem escaped_ne_nil (c : Char) : escaped c ≠ [] := by
  rcases escaped_cases c with ⟨h, -⟩ | ⟨l, h, -⟩ | ⟨h, -⟩ <;> rw [h] <;> exact List.cons_ne_nil _ _

theorem escaped_ne_mark (c : Char) (rest : List Char) : escaped c ≠ '"' :: rest := by
  intro h
  rcases escaped_cases c with ⟨hc, -⟩ | ⟨letter, hc, -⟩ | ⟨hc, -⟩
  · rw [hc] at h
    obtain ⟨rfl, -⟩ := List.cons.inj h
    cases hc
  · rw [hc] at h
    cases h
  · rw [hc] at h
    cases h

/-- The first mark that is not escaped ends a string. -/
theorem flatMap_escaped_append_inj {l m x y : List Char}
    (h : l.flatMap escaped ++ '"' :: x = m.flatMap escaped ++ '"' :: y) : l = m ∧ x = y := by
  induction l generalizing m with
  | nil =>
    cases m with
    | nil => exact ⟨rfl, (List.cons.inj h).2⟩
    | cons d rest =>
      obtain ⟨e, more, he⟩ := List.exists_cons_of_ne_nil (escaped_ne_nil d)
      rw [List.flatMap_cons, List.append_assoc, he] at h
      obtain ⟨rfl, -⟩ := List.cons.inj h
      exact absurd he (escaped_ne_mark d more)
  | cons c rest ih =>
    cases m with
    | nil =>
      obtain ⟨e, more, he⟩ := List.exists_cons_of_ne_nil (escaped_ne_nil c)
      rw [List.flatMap_cons, List.append_assoc, he] at h
      obtain ⟨rfl, -⟩ := List.cons.inj h
      exact absurd he (escaped_ne_mark c more)
    | cons d rest' =>
      rw [List.flatMap_cons, List.flatMap_cons, List.append_assoc, List.append_assoc] at h
      obtain ⟨rfl, hrest⟩ := escaped_append_inj h
      obtain ⟨rfl, hxy⟩ := ih hrest
      exact ⟨rfl, hxy⟩

theorem renderString_append_inj {s t : String} {x y : List Char}
    (h : renderString s ++ x = renderString t ++ y) : s = t ∧ x = y := by
  rw [renderString, renderString, List.cons_append, List.cons_append, List.append_assoc,
    List.append_assoc] at h
  obtain ⟨hst, hxy⟩ := flatMap_escaped_append_inj (List.cons.inj h).2
  exact ⟨String.ext hst, hxy⟩

theorem renderString_injective : Function.Injective renderString :=
  fun _ _ h => (renderString_append_inj (congrArg (· ++ []) h)).1

/-! ### Values without numbers -/

mutual

/-- Whether a value holds no number. The text of a number ends where something else begins; that of
any other value knows its own end. -/
def numberFree : Json → Bool
  | null | bool _ | str _ => true
  | int _ | float _ => false
  | arr items => itemsNumberFree items
  | obj fields => fieldsNumberFree fields

def itemsNumberFree : List Json → Bool
  | [] => true
  | item :: items => item.numberFree && itemsNumberFree items

def fieldsNumberFree : List (String × Json) → Bool
  | [] => true
  | (_, value) :: fields => value.numberFree && fieldsNumberFree fields

end

theorem itemsNumberFree_iff {items : List Json} :
    itemsNumberFree items = true ↔ ∀ v ∈ items, v.numberFree = true := by
  induction items with
  | nil => simp [itemsNumberFree]
  | cons v rest ih => simp [itemsNumberFree, ih]

theorem itemsNumberFree_map {α : Type} {f : α → Json} (hfree : ∀ a, (f a).numberFree = true) (l : List α) :
    itemsNumberFree (l.map f) = true := by
  rw [itemsNumberFree_iff]
  intro v hv
  obtain ⟨a, -, rfl⟩ := List.mem_map.mp hv
  exact hfree a

theorem fieldsNumberFree_iff {fields : List (String × Json)} :
    fieldsNumberFree fields = true ↔ ∀ f ∈ fields, f.2.numberFree = true := by
  induction fields with
  | nil => simp [fieldsNumberFree]
  | cons f rest ih => simp [fieldsNumberFree, ih]

/-- The character that the text of a value begins with; of a number it is not told. -/
def opening : Json → Char
  | null => 'n'
  | bool true => 't'
  | bool false => 'f'
  | int _ | float _ => '0'
  | str _ => '"'
  | arr _ => '['
  | obj _ => '\x7b'

theorem renderChars_eq_cons {v : Json} (hv : v.numberFree = true) :
    ∃ rest, v.renderChars = v.opening :: rest := by
  cases v with
  | null => exact ⟨_, renderChars.eq_1⟩
  | bool b => cases b <;> exact ⟨_, rfl⟩
  | int n => cases hv
  | float x => cases hv
  | str s => exact ⟨_, by rw [renderChars, renderString, List.cons_append, opening]⟩
  | arr items => cases items <;> exact ⟨_, by rw [renderChars]; rfl⟩
  | obj fields => cases fields <;> exact ⟨_, by rw [renderChars]; rfl⟩

theorem opening_eq {v w : Json} (hv : v.numberFree = true) (hw : w.numberFree = true) {x y : List Char}
    (h : v.renderChars ++ x = w.renderChars ++ y) : v.opening = w.opening := by
  obtain ⟨rest, hrest⟩ := renderChars_eq_cons hv
  obtain ⟨rest', hrest'⟩ := renderChars_eq_cons hw
  rw [hrest, hrest'] at h
  exact (List.cons.inj h).1

theorem opening_ne_bracket (v : Json) : v.opening ≠ ']' := by
  rcases v with _ | (_ | _) | _ | _ | _ | _ | _ <;> exact of_decide_eq_true rfl

mutual

/-- **Texts do not begin each other.** What the text of a value begins with tells the value, and where its
text ends. -/
theorem renderChars_append_inj : (v w : Json) → v.numberFree = true → w.numberFree = true →
    {x y : List Char} → v.renderChars ++ x = w.renderChars ++ y → v = w ∧ x = y
  | null, w, hv, hw, x, y, h => by
    have hw' := opening_eq hv hw h
    obtain rfl : w = null := by
      rcases w with _ | (_ | _) | _ | _ | _ | _ | _ <;> first | rfl | cases hw'
    exact ⟨rfl, List.append_cancel_left h⟩
  | bool b, w, hv, hw, x, y, h => by
    have hw' := opening_eq hv hw h
    obtain rfl : w = bool b := by
      rcases w with _ | (_ | _) | _ | _ | _ | _ | _ <;> cases b <;> first | rfl | cases hw'
    exact ⟨rfl, List.append_cancel_left h⟩
  | str s, w, hv, hw, x, y, h => by
    have hw' := opening_eq hv hw h
    obtain ⟨t, rfl⟩ : ∃ t, w = str t := by
      rcases w with _ | (_ | _) | _ | _ | t | _ | _ <;> first | exact ⟨t, rfl⟩ | cases hw'
    rw [renderChars, renderChars] at h
    obtain ⟨rfl, hxy⟩ := renderString_append_inj h
    exact ⟨rfl, hxy⟩
  | arr items, w, hv, hw, x, y, h => by
    have hw' := opening_eq hv hw h
    obtain ⟨items', rfl⟩ : ∃ items', w = arr items' := by
      rcases w with _ | (_ | _) | _ | _ | _ | items' | _ <;> first | exact ⟨items', rfl⟩ | cases hw'
    match items, items' with
    | [], [] => 
      exact ⟨rfl, List.append_cancel_left h⟩
    | [], w :: m =>
      rw [numberFree, itemsNumberFree, Bool.and_eq_true] at hw
      obtain ⟨rest, hrest⟩ := renderChars_eq_cons hw.1
      rw [renderChars, renderChars, hrest] at h
      exact absurd (List.cons.inj (List.cons.inj h).2).1.symm (opening_ne_bracket w)
    | v :: l, [] =>
      rw [numberFree, itemsNumberFree, Bool.and_eq_true] at hv
      obtain ⟨rest, hrest⟩ := renderChars_eq_cons hv.1
      rw [renderChars, renderChars, hrest] at h
      exact absurd (List.cons.inj (List.cons.inj h).2).1 (opening_ne_bracket v)
    | v :: l, w :: m =>
      rw [numberFree, itemsNumberFree, Bool.and_eq_true] at hv hw
      rw [renderChars, renderChars] at h
      simp only [List.cons_append, List.append_assoc, List.nil_append, List.cons.injEq, true_and] at h
      obtain ⟨rfl, hrest⟩ := renderChars_append_inj v w hv.1 hw.1 h
      obtain ⟨rfl, hxy⟩ := renderItems_append_inj l m hv.2 hw.2 hrest
      exact ⟨rfl, hxy⟩
  | obj fields, w, hv, hw, x, y, h => by
    have hw' := opening_eq hv hw h
    obtain ⟨fields', rfl⟩ : ∃ fields', w = obj fields' := by
      rcases w with _ | (_ | _) | _ | _ | _ | _ | fields' <;> first | exact ⟨fields', rfl⟩ | cases hw'
    match fields, fields' with
    | [], [] =>
      exact ⟨rfl, List.append_cancel_left h⟩
    | [], (name, w) :: m =>
      rw [renderChars, renderChars, renderString] at h
      simp at h
    | (name, v) :: l, [] =>
      rw [renderChars, renderChars, renderString] at h
      simp at h
    | (name, v) :: l, (name', w) :: m =>
      rw [numberFree, fieldsNumberFree, Bool.and_eq_true] at hv hw
      rw [renderChars, renderChars] at h
      simp only [List.cons_append, List.append_assoc, List.nil_append, List.cons.injEq, true_and] at h
      obtain ⟨rfl, hvalue⟩ := renderString_append_inj h
      obtain ⟨rfl, hrest⟩ := renderChars_append_inj v w hv.1 hw.1 (List.cons.inj hvalue).2
      obtain ⟨rfl, hxy⟩ := renderFields_append_inj l m hv.2 hw.2 hrest
      exact ⟨rfl, hxy⟩

theorem renderItems_append_inj : (l m : List Json) → itemsNumberFree l = true → itemsNumberFree m = true →
    {x y : List Char} → renderItems l ++ ']' :: x = renderItems m ++ ']' :: y → l = m ∧ x = y
  | [], [], _, _, x, y, h => ⟨rfl, (List.cons.inj h).2⟩
  | [], w :: m, _, _, x, y, h => by
    rw [renderItems] at h
    simp [renderItems] at h
  | v :: l, [], _, _, x, y, h => by
    rw [renderItems] at h
    simp [renderItems] at h
  | v :: l, w :: m, hl, hm, x, y, h => by
    rw [itemsNumberFree, Bool.and_eq_true] at hl hm
    rw [renderItems, renderItems, List.cons_append, List.cons_append, List.append_assoc,
      List.append_assoc] at h
    obtain ⟨rfl, hrest⟩ := renderChars_append_inj v w hl.1 hm.1 (List.cons.inj h).2
    obtain ⟨rfl, hxy⟩ := renderItems_append_inj l m hl.2 hm.2 hrest
    exact ⟨rfl, hxy⟩

theorem renderFields_append_inj : (l m : List (String × Json)) → fieldsNumberFree l = true →
    fieldsNumberFree m = true → {x y : List Char} →
    renderFields l ++ '\x7d' :: x = renderFields m ++ '\x7d' :: y → l = m ∧ x = y
  | [], [], _, _, x, y, h => ⟨rfl, (List.cons.inj h).2⟩
  | [], (name, w) :: m, _, _, x, y, h => by
    rw [renderFields] at h
    simp [renderFields] at h
  | (name, v) :: l, [], _, _, x, y, h => by
    rw [renderFields] at h
    simp [renderFields] at h
  | (name, v) :: l, (name', w) :: m, hl, hm, x, y, h => by
    rw [fieldsNumberFree, Bool.and_eq_true] at hl hm
    rw [renderFields, renderFields] at h
    simp only [List.cons_append, List.append_assoc, List.cons.injEq, true_and] at h
    obtain ⟨rfl, hvalue⟩ := renderString_append_inj h
    obtain ⟨rfl, hrest⟩ := renderChars_append_inj v w hl.1 hm.1 (List.cons.inj hvalue).2
    obtain ⟨rfl, hxy⟩ := renderFields_append_inj l m hl.2 hm.2 hrest
    exact ⟨rfl, hxy⟩

end

/-- The text of a value tells the value. -/
theorem render_injective {v w : Json} (hv : v.numberFree = true) (hw : w.numberFree = true)
    (h : v.render = w.render) : v = w := by
  have hchars : v.renderChars = w.renderChars := String.ofList_injective h
  exact (renderChars_append_inj v w hv hw (congrArg (· ++ []) hchars)).1

end Json

end NestedRows
