import NestedRows.Text.Utf8
import Mathlib.Data.List.Basic
/-!
# Bytes read as text

The bytes of a text are read as its characters (`decodeUtf8_utf8`). A byte below 128 is read as the
character with its number, wherever it stands; so whether there are only some of these characters can be
told from the bytes (`all_decodeUtf8`).
-/

namespace NestedRows.Text

/-- The bytes of a text. -/
def utf8 (s : String) : List UInt8 := s.toList.flatMap String.utf8EncodeChar

/-! ### One character -/

theorem isTail_iff {b : UInt8} : isTail b = true ↔ 128 ≤ b.toNat ∧ b.toNat ≤ 191 := by
  simp [isTail, UInt8.le_iff_toNat_le]

theorem not_lt_of_le {a : UInt8} (ha : 128 ≤ a.toNat) : ¬ a < 0x80 :=
  fun hlt => Nat.not_lt_of_le ha (UInt8.lt_iff_toNat_lt.mp hlt)

theorem firstChar?_one {a : UInt8} (ha : a.toNat < 128) (rest : List UInt8) :
    firstChar? (a :: rest) = some (Char.ofNat a.toNat, 0) := by
  have hlt : a < 0x80 := UInt8.lt_iff_toNat_lt.mpr ha
  rw [firstChar?.eq_def]
  exact if_pos hlt

theorem lead_iff {low high a : UInt8} :
    (low ≤ a && a ≤ high) = true ↔ low.toNat ≤ a.toNat ∧ a.toNat ≤ high.toNat := by
  simp [UInt8.le_iff_toNat_le]

/-- Whether the second byte fits the first, of which one excludes small and one excludes large ones. -/
theorem second_iff {a b small large low high : UInt8} :
    ((if a = small then low else 0x80) ≤ b && b ≤ (if a = large then high else 0xBF)) = true ↔
      (if a.toNat = small.toNat then low.toNat else 0x80) ≤ b.toNat ∧
        b.toNat ≤ (if a.toNat = large.toNat then high.toNat else 0xBF) := by
  simp only [lead_iff, ← UInt8.toNat_inj, apply_ite UInt8.toNat, UInt8.reduceToNat]

theorem firstChar?_two {a b : UInt8} (ha : 0xC2 ≤ a.toNat ∧ a.toNat ≤ 0xDF) (hb : isTail b = true)
    (rest : List UInt8) :
    firstChar? (a :: b :: rest) = some (Char.ofNat ((a.toNat - 0xC0) * 64 + tailBits b), 1) := by
  have hge : ¬ a < 0x80 := not_lt_of_le (by omega)
  have hlead : (0xC2 ≤ a && a ≤ 0xDF) = true := lead_iff.mpr ha
  rw [firstChar?, if_neg hge, if_pos hlead, if_pos hb]

theorem firstChar?_three {a b c : UInt8} (ha : 0xE0 ≤ a.toNat ∧ a.toNat ≤ 0xEF)
    (hlow : (if a.toNat = 0xE0 then 0xA0 else 0x80) ≤ b.toNat)
    (hhigh : b.toNat ≤ (if a.toNat = 0xED then 0x9F else 0xBF)) (hc : isTail c = true) (rest : List UInt8) :
    firstChar? (a :: b :: c :: rest) =
      some (Char.ofNat ((a.toNat - 0xE0) * 4096 + tailBits b * 64 + tailBits c), 2) := by
  have hge : ¬ a < 0x80 := not_lt_of_le (by omega)
  have hother : ¬ (0xC2 ≤ a && a ≤ 0xDF) = true := by
    simp only [lead_iff, UInt8.reduceToNat]
    omega
  have hlead : (0xE0 ≤ a && a ≤ 0xEF) = true := lead_iff.mpr ha
  have hrange : ((if a = 0xE0 then 0xA0 else 0x80) ≤ b && b ≤ (if a = 0xED then 0x9F else 0xBF) &&
      isTail c) = true := by
    rw [Bool.and_eq_true, second_iff]
    exact ⟨⟨hlow, hhigh⟩, hc⟩
  rw [firstChar?, if_neg hge, if_neg hother, if_pos hlead]
  exact if_pos hrange

theorem firstChar?_four {a b c d : UInt8} (ha : 0xF0 ≤ a.toNat ∧ a.toNat ≤ 0xF4)
    (hlow : (if a.toNat = 0xF0 then 0x90 else 0x80) ≤ b.toNat)
    (hhigh : b.toNat ≤ (if a.toNat = 0xF4 then 0x8F else 0xBF)) (hc : isTail c = true)
    (hd : isTail d = true) (rest : List UInt8) :
    firstChar? (a :: b :: c :: d :: rest) = some (Char.ofNat ((a.toNat - 0xF0) * 262144 + tailBits b * 4096
      + tailBits c * 64 + tailBits d), 3) := by
  have hge : ¬ a < 0x80 := not_lt_of_le (by omega)
  have hother : ¬ (0xC2 ≤ a && a ≤ 0xDF) = true := by
    simp only [lead_iff, UInt8.reduceToNat]
    omega
  have hother' : ¬ (0xE0 ≤ a && a ≤ 0xEF) = true := by
    simp only [lead_iff, UInt8.reduceToNat]
    omega
  have hlead : (0xF0 ≤ a && a ≤ 0xF4) = true := lead_iff.mpr ha
  have hrange : ((if a = 0xF0 then 0x90 else 0x80) ≤ b && b ≤ (if a = 0xF4 then 0x8F else 0xBF) &&
      isTail c && isTail d) = true := by
    rw [Bool.and_eq_true, Bool.and_eq_true, second_iff]
    exact ⟨⟨⟨hlow, hhigh⟩, hc⟩, hd⟩
  rw [firstChar?, if_neg hge, if_neg hother, if_neg hother', if_pos hlead]
  exact if_pos hrange

theorem toNat_ofNat_of_lt {n : Nat} (h : n < 256) : (UInt8.ofNat n).toNat = n := by
  rw [UInt8.toNat_ofNat', Nat.mod_eq_of_lt h]

theorem isTail_ofNat (n : Nat) : isTail (UInt8.ofNat (n % 64 + 128)) = true := by
  rw [isTail_iff, toNat_ofNat_of_lt (by omega)]
  omega

theorem tailBits_ofNat (n : Nat) : tailBits (UInt8.ofNat (n % 64 + 128)) = n % 64 := by
  rw [tailBits, toNat_ofNat_of_lt (by omega)]
  omega

theorem firstChar?_utf8EncodeChar (c : Char) (rest : List UInt8) :
    firstChar? (String.utf8EncodeChar c ++ rest) = some (c, (String.utf8EncodeChar c).length - 1) := by
  have hvalid : c.val.toNat < 0xD800 ∨ 0xDFFF < c.val.toNat ∧ c.val.toNat < 0x110000 := c.valid
  have hnumber : Char.ofNat c.val.toNat = c := Char.ofNat_toNat c
  generalize hn : c.val.toNat = n at hvalid hnumber
  rw [String.utf8EncodeChar, hn]
  split_ifs with h₁ h₂ h₃
  · have hbyte := toNat_ofNat_of_lt (show n < 256 by omega)
    rw [List.singleton_append, firstChar?_one (by omega), hbyte, hnumber]
    rfl
  · have hbyte := toNat_ofNat_of_lt (show n / 64 % 32 + 192 < 256 by omega)
    rw [List.cons_append, List.singleton_append, firstChar?_two (by omega) (isTail_ofNat n), hbyte,
      tailBits_ofNat, show (n / 64 % 32 + 192 - 0xC0) * 64 + n % 64 = n by omega, hnumber]
    rfl
  · have hbyte := toNat_ofNat_of_lt (show n / 4096 % 16 + 224 < 256 by omega)
    have hnext := toNat_ofNat_of_lt (show n / 64 % 64 + 128 < 256 by omega)
    rw [List.cons_append, List.cons_append, List.singleton_append,
      firstChar?_three (by omega) (by rw [hbyte, hnext]; split_ifs <;> omega)
        (by rw [hbyte, hnext]; split_ifs <;> omega) (isTail_ofNat n),
      hbyte, tailBits_ofNat, tailBits_ofNat,
      show (n / 4096 % 16 + 224 - 0xE0) * 4096 + n / 64 % 64 * 64 + n % 64 = n by omega, hnumber]
    rfl
  · have hbyte := toNat_ofNat_of_lt (show n / 262144 % 8 + 240 < 256 by omega)
    have hnext := toNat_ofNat_of_lt (show n / 4096 % 64 + 128 < 256 by omega)
    rw [List.cons_append, List.cons_append, List.cons_append, List.singleton_append,
      firstChar?_four (by omega) (by rw [hbyte, hnext]; split_ifs <;> omega)
        (by rw [hbyte, hnext]; split_ifs <;> omega) (isTail_ofNat (n / 64)) (isTail_ofNat n),
      hbyte, tailBits_ofNat, tailBits_ofNat, tailBits_ofNat,
      show (n / 262144 % 8 + 240 - 0xF0) * 262144 + n / 4096 % 64 * 4096 + n / 64 % 64 * 64 + n % 64 = n by
        omega, hnumber]
    rfl

/-! ### Whole texts -/

theorem decodeAfter_length (done rest : List UInt8) : decodeAfter done.length (done ++ rest) = decodeAfter 0 rest := by
  induction done with
  | nil => rfl
  | cons b done ih => rwa [List.length_cons, List.cons_append, decodeAfter]

theorem decodeAfter_utf8EncodeChar (c : Char) (rest : List UInt8) :
    decodeAfter 0 (String.utf8EncodeChar c ++ rest) = some c :: decodeAfter 0 rest := by
  have hfirst := firstChar?_utf8EncodeChar c rest
  obtain ⟨lead, tails, hbytes⟩ : ∃ lead tails, String.utf8EncodeChar c = lead :: tails := by
    rw [String.utf8EncodeChar]
    split_ifs <;> exact ⟨_, _, rfl⟩
  rw [hbytes, List.cons_append] at hfirst ⊢
  rw [decodeAfter, hfirst]
  exact congrArg (some c :: ·) (decodeAfter_length tails rest)

/-- The bytes of a text are read as this text. -/
theorem decodeUtf8_utf8 (s : String) : decodeUtf8 (utf8 s) = unitsOf s := by
  rw [decodeUtf8, utf8, unitsOf]
  induction s.toList with
  | nil => rfl
  | cons c rest ih => rw [List.flatMap_cons, decodeAfter_utf8EncodeChar, ih, List.map_cons]

/-! ### Characters below 128 -/

theorem toNat_ofNat_of_isValid {n : Nat} (h : n < 0xD800 ∨ 0xDFFF < n ∧ n < 0x110000) :
    (Char.ofNat n).toNat = n := by
  have hvalid : n.isValidChar := h
  rw [Char.ofNat, dif_pos hvalid]
  rfl

/-- A byte from 128 on begins no character below 128. -/
theorem le_of_firstChar? {a : UInt8} (ha : 128 ≤ a.toNat) {rest : List UInt8} {c : Char} {tails : Nat}
    (h : firstChar? (a :: rest) = some (c, tails)) : 128 ≤ c.toNat := by
  rw [firstChar?.eq_def] at h
  simp only [if_neg (not_lt_of_le ha)] at h
  by_cases htwo : (0xC2 ≤ a && a ≤ 0xDF) = true
  · rw [if_pos htwo] at h
    match rest, h with
    | b :: _, h =>
      obtain ⟨hb, heq⟩ := Option.ite_none_right_eq_some.mp h
      obtain ⟨rfl, -⟩ := Prod.mk.inj (Option.some.inj heq)
      simp only [lead_iff, UInt8.reduceToNat] at htwo
      rw [isTail_iff] at hb
      rw [tailBits, toNat_ofNat_of_isValid] <;> omega
  rw [if_neg htwo] at h
  by_cases hthree : (0xE0 ≤ a && a ≤ 0xEF) = true
  · rw [if_pos hthree] at h
    match rest, h with
    | b :: c :: _, h =>
      obtain ⟨hrange, heq⟩ := Option.ite_none_right_eq_some.mp h
      obtain ⟨rfl, -⟩ := Prod.mk.inj (Option.some.inj heq)
      rw [Bool.and_eq_true, second_iff, isTail_iff] at hrange
      simp only [lead_iff, UInt8.reduceToNat] at hthree hrange
      rw [tailBits, tailBits, toNat_ofNat_of_isValid] <;> split_ifs at hrange <;> omega
  rw [if_neg hthree] at h
  obtain ⟨hfour, h⟩ := Option.ite_none_right_eq_some.mp h
  match rest, h with
  | b :: c :: d :: _, h =>
    obtain ⟨hrange, heq⟩ := Option.ite_none_right_eq_some.mp h
    obtain ⟨rfl, -⟩ := Prod.mk.inj (Option.some.inj heq)
    rw [Bool.and_eq_true, Bool.and_eq_true, second_iff, isTail_iff, isTail_iff] at hrange
    simp only [lead_iff, UInt8.reduceToNat] at hfour hrange
    rw [tailBits, tailBits, tailBits, toNat_ofNat_of_isValid] <;> split_ifs at hrange <;> omega

theorem all_decodeUtf8 {p : Char → Bool} (hp : ∀ c, p c = true → c.toNat < 128) (bytes : List UInt8) :
    (decodeUtf8 bytes).all (Option.any p) =
      bytes.all fun b => b.toNat < 128 && p (Char.ofNat b.toNat) := by
  rw [decodeUtf8]
  induction bytes with
  | nil => rfl
  | cons a rest ih =>
    rw [List.all_cons]
    by_cases ha : a.toNat < 128
    · rw [decodeAfter, firstChar?_one ha]
      simp [ih, ha]
    · have hlate : (decodeAfter 0 (a :: rest)).all (Option.any p) = false := by
        rw [decodeAfter]
        cases hfirst : firstChar? (a :: rest) with
        | none => rfl
        | some first =>
          obtain ⟨c, tails⟩ := first
          have hc : p c = false := by
            rw [Bool.eq_false_iff]
            intro hpc
            have hlt := hp c hpc
            have hle := le_of_firstChar? (Nat.le_of_not_lt ha) hfirst
            omega
          simp [hc]
      rw [hlate]
      simp [ha]

end NestedRows.Text
