import NestedRows.Decimal.Shortest
import Mathlib.Algebra.Order.Field.Power
import Mathlib.Algebra.Order.Field.Rat
import Mathlib.Tactic.FieldSimp
import Mathlib.Tactic.GCongr
import Mathlib.Tactic.Linarith
import Mathlib.Tactic.NormNum
import Mathlib.Tactic.Positivity
import Mathlib.Tactic.Ring
/-!
# Rounding to the nearest double

Which quotients are rounded to a number. The reals that round to it lie in an interval around it
(`Binary64.Admits`), which is described in the quarter units of the shortest decimals, and
`Binary64.nearestCode` finds the number from each quotient in the interval
(`nearestCode_of_admits`). The exponent for a quotient is the only one that gives it a mantissa of the
right size, so it is that of the number, but for quotients just below a power of two.
-/

namespace NestedRows.Binary64

/-! ### Sign, exponent and mantissa -/

theorem eq_of_code {x y : Binary64} (hsign : x.negative = y.negative) (hcode : x.code = y.code) :
    x = y := by
  cases x
  cases y
  obtain rfl := hsign
  obtain rfl := hcode
  rfl

theorem mantissa_lt (x : Binary64) : x.mantissa < 2 * hiddenBit := by
  have hfraction : x.code % hiddenBit < hiddenBit := Nat.mod_lt _ (by decide)
  rw [mantissa]
  split <;> omega

theorem least_le_exponent (x : Binary64) : -1074 ≤ x.exponent := by
  rw [exponent]
  omega

theorem exponent_le {x : Binary64} (hx : x.isFinite = true) : x.exponent ≤ 971 := by
  have hcode : x.code < infinityCode := of_decide_eq_true hx
  rw [exponent]
  simp only [hiddenBit, infinityCode] at hcode ⊢
  omega

theorem hiddenBit_le_mantissa {x : Binary64} (h : -1074 < x.exponent) : hiddenBit ≤ x.mantissa := by
  rw [exponent] at h
  rw [mantissa, if_neg (by omega)]
  exact Nat.le_add_right _ _

theorem code_eq (x : Binary64) : x.code = (x.exponent + 1074).toNat * hiddenBit + x.mantissa := by
  have hsplit : x.code = x.code / hiddenBit * hiddenBit + x.code % hiddenBit :=
    (Nat.div_add_mod' x.code hiddenBit).symm
  rw [exponent, mantissa]
  rcases Nat.eq_zero_or_pos (x.code / hiddenBit) with hzero | hpos
  · rw [if_pos hzero, hzero]
    rw [hzero] at hsplit
    simpa using hsplit
  · have hexponent : ((max (x.code / hiddenBit) 1 : Nat) - 1075 + 1074 : Int).toNat
        = x.code / hiddenBit - 1 := by omega
    rw [if_neg (by omega), hexponent, ← Nat.add_assoc, ← Nat.succ_mul, Nat.succ_eq_add_one,
      Nat.sub_add_cancel hpos]
    exact hsplit

/-! ### Rounding a quotient -/

theorem roundHalfEven_eq {num den m : Nat} (hden : 0 < den) (hlow : 2 * m * den ≤ 2 * num + den)
    (hhigh : 2 * num ≤ 2 * m * den + den)
    (heven : m % 2 = 1 → 2 * m * den < 2 * num + den ∧ 2 * num < 2 * m * den + den) :
    roundHalfEven num den = m := by
  have hsplit := Nat.div_add_mod num den
  have hrest := Nat.mod_lt num hden
  rw [roundHalfEven]
  generalize num / den = quotient at *
  generalize num % den = rest at *
  have hle : m ≤ quotient + 1 := by
    by_contra hlt
    have : (quotient + 2) * den ≤ m * den := Nat.mul_le_mul_right _ (by omega)
    nlinarith
  have hge : quotient ≤ m := by
    by_contra hlt
    have : (m + 1) * den ≤ quotient * den := Nat.mul_le_mul_right _ (by omega)
    nlinarith
  have hnum : num = quotient * den + rest := by rw [← hsplit, Nat.mul_comm]
  rcases (by omega : m = quotient ∨ m = quotient + 1) with rfl | rfl
  · have hmul : 2 * m * den = 2 * (m * den) := Nat.mul_assoc _ _ _
    rcases Nat.lt_trichotomy (2 * rest) den with hlt | heq | hgt
    · simp only [if_pos hlt]
    · have : m % 2 = 0 := by
        by_contra hodd
        have := heven (by omega)
        omega
      simp [heq, this]
    · omega
  · have hmul : 2 * (quotient + 1) * den = 2 * (quotient * den) + 2 * den := by ring
    rcases Nat.lt_trichotomy (2 * rest) den with hlt | heq | hgt
    · omega
    · have : quotient % 2 ≠ 0 := by
        intro hzero
        have := heven (by omega)
        omega
      simp [heq, this]
    · simp only [if_neg (by omega : ¬ 2 * rest < den), if_pos hgt]

/-- Scaling multiplies the quotient by a power of two. -/
theorem scaled_spec (num : Nat) {den : Nat} (hden : 0 < den) (q : Int) : 0 < (scaled num den q).2 ∧
    ((scaled num den q).1 / (scaled num den q).2 : ℚ) = num / den * 2 ^ q := by
  have hpow : ∀ n : Nat, 0 < Nat.pow 2 n := fun n => Nat.pow_pos (by decide)
  rw [scaled]
  by_cases hq : 0 ≤ q
  · rw [if_pos hq]
    lift q to Nat using hq
    refine ⟨hden, ?_⟩
    simp only [Int.toNat_natCast, Nat.pow_eq, Nat.cast_mul, Nat.cast_pow, Nat.cast_ofNat,
      zpow_natCast]
    ring
  · rw [if_neg hq]
    obtain ⟨n, rfl⟩ : ∃ n : Nat, q = -n := ⟨(-q).toNat, by omega⟩
    refine ⟨Nat.mul_pos hden (hpow _), ?_⟩
    simp only [neg_neg, Int.toNat_natCast, Nat.pow_eq, Nat.cast_mul, Nat.cast_pow, Nat.cast_ofNat,
      zpow_neg, zpow_natCast]
    field_simp

/-! ### The exponent for a quotient -/

/-- The exponent gives the value a mantissa of 53 bits, or of fewer bits if it is the least. -/
structure Fits (v : ℚ) (q : Int) : Prop where
  least : -1074 ≤ q
  lt : v < 2 * hiddenBit * 2 ^ q
  le : q = -1074 ∨ hiddenBit * 2 ^ q ≤ v

theorem Fits.le_of_fits {v : ℚ} {q q' : Int} (h : Fits v q) (h' : Fits v q') : q ≤ q' := by
  by_contra hlt
  have hle := h.le.resolve_left (by have := h'.least; omega)
  have hpow : (2 : ℚ) * 2 ^ q' ≤ 2 ^ q := by
    rw [← zpow_one_add₀ (by norm_num)]
    exact zpow_le_zpow_right₀ (by norm_num) (by omega)
  have := h'.lt
  have hhidden : (0 : ℚ) < hiddenBit := by norm_num [hiddenBit]
  nlinarith

theorem log2_bounds {n : Nat} (hn : 0 < n) : (2 : ℚ) ^ (n.log2 : Int) ≤ n ∧
    (n : ℚ) < 2 ^ (n.log2 + 1 : Int) := by
  have hle : 2 ^ n.log2 ≤ n := Nat.log2_self_le (by omega)
  have hlt : n < 2 ^ (n.log2 + 1) := Nat.lt_log2_self
  constructor
  · exact_mod_cast hle
  · exact_mod_cast hlt

theorem fits_exponentFor {num den : Nat} (hnum : 0 < num) (hden : 0 < den) :
    Fits (num / den) (exponentFor num den) := by
  obtain ⟨hnumle, hnumlt⟩ := log2_bounds hnum
  obtain ⟨hdenle, hdenlt⟩ := log2_bounds hden
  have hdenpos : (0 : ℚ) < den := by exact_mod_cast hden
  rw [exponentFor]
  generalize hleast : (num.log2 : Int) - (den.log2 : Int) - 53 = least
  have hhidden : (hiddenBit : ℚ) = 2 ^ (52 : Int) := by norm_num [hiddenBit]
  -- the quotient is less than two powers of two away from the one with 53 bits
  have hlow : hiddenBit * 2 ^ least ≤ (num / den : ℚ) := by
    rw [le_div_iff₀ hdenpos, hhidden]
    calc (2 : ℚ) ^ (52 : Int) * 2 ^ least * den
        ≤ 2 ^ (52 : Int) * 2 ^ least * 2 ^ (den.log2 + 1 : Int) := by gcongr
      _ = 2 ^ (num.log2 : Int) := by
          rw [← zpow_add₀ (by norm_num), ← zpow_add₀ (by norm_num)]
          congr 1
          omega
      _ ≤ num := hnumle
  have hhigh : (num / den : ℚ) < 2 * hiddenBit * 2 ^ (least + 1) := by
    rw [div_lt_iff₀ hdenpos, hhidden]
    calc (num : ℚ)
        < 2 ^ (num.log2 + 1 : Int) := hnumlt
      _ = 2 * 2 ^ (52 : Int) * 2 ^ (least + 1) * 2 ^ (den.log2 : Int) := by
          rw [← zpow_one_add₀ (by norm_num), ← zpow_add₀ (by norm_num), ← zpow_add₀ (by norm_num)]
          congr 1
          omega
      _ ≤ 2 * 2 ^ (52 : Int) * 2 ^ (least + 1) * den := by gcongr
  have hscaled := scaled_spec num hden (-least)
  generalize scaled num den (-least) = pair at hscaled ⊢
  obtain ⟨n, d⟩ := pair
  obtain ⟨hpos, hscaled⟩ := hscaled
  dsimp only at hpos hscaled ⊢
  have htest : 2 * hiddenBit ≤ n / d ↔ 2 * hiddenBit * 2 ^ least ≤ (num / den : ℚ) := by
    rw [Nat.le_div_iff_mul_le hpos, ← Nat.cast_le (α := ℚ), Nat.cast_mul,
      ← le_div_iff₀ (by exact_mod_cast hpos), hscaled, zpow_neg, ← div_eq_mul_inv,
      le_div_iff₀ (by positivity)]
    push_cast
    rfl
  have hpow : ∀ q : Int, (2 : ℚ) ^ (q + 1) = 2 * 2 ^ q := fun q => by
    rw [zpow_add_one₀ (by norm_num), mul_comm]
  have hexact : ∀ q, hiddenBit * 2 ^ q ≤ (num / den : ℚ) → (num / den : ℚ) < 2 * hiddenBit * 2 ^ q →
      Fits (num / den) (max q (-1074)) := by
    intro q hle hlt
    refine ⟨le_max_right _ _, hlt.trans_le ?_, ?_⟩
    · gcongr
      · norm_num
      · exact le_max_left _ _
    · rcases le_total q (-1074) with h | h
      · exact .inl (max_eq_right h)
      · exact .inr (by rwa [max_eq_left h])
  by_cases h : 2 * hiddenBit * 2 ^ least ≤ (num / den : ℚ)
  · rw [if_pos (htest.mpr h)]
    refine hexact _ ?_ hhigh
    rw [hpow]
    linarith
  · rw [if_neg (mt htest.mp h)]
    exact hexact _ hlow (not_le.mp h)

/-- The code of a positive quotient whose exponent and mantissa are known. -/
theorem nearestCode_eq {num den m : Nat} {q : Int} (hnum : 0 < num) (hden : 0 < den)
    (hfits : Fits (num / den) q) (hlow : (m - 1 / 2 : ℚ) * 2 ^ q ≤ num / den)
    (hhigh : (num / den : ℚ) ≤ (m + 1 / 2) * 2 ^ q)
    (heven : m % 2 = 1 → (m - 1 / 2 : ℚ) * 2 ^ q < num / den ∧ (num / den : ℚ) < (m + 1 / 2) * 2 ^ q) :
    nearestCode num den = min ((q + 1074).toNat * hiddenBit + m) infinityCode := by
  have hexponent : exponentFor num den = q := by
    have hfound := fits_exponentFor hnum hden
    exact le_antisymm (hfound.le_of_fits hfits) (hfits.le_of_fits hfound)
  obtain ⟨hpos, hscaled⟩ := scaled_spec num hden (-q)
  have hrounded : roundHalfEven (scaled num den (-q)).1 (scaled num den (-q)).2 = m := by
    have hposq : (0 : ℚ) < (scaled num den (-q)).2 := by exact_mod_cast hpos
    have hscale : (num / den : ℚ) = (scaled num den (-q)).1 / (scaled num den (-q)).2 * 2 ^ q := by
      rw [hscaled, mul_assoc, ← zpow_add₀ (by norm_num), neg_add_cancel, zpow_zero, mul_one]
    have htwo : (0 : ℚ) < 2 ^ q := by positivity
    rw [hscale] at hlow hhigh heven
    simp only [mul_le_mul_iff_left₀ htwo, mul_lt_mul_iff_left₀ htwo, le_div_iff₀ hposq,
      div_le_iff₀ hposq, lt_div_iff₀ hposq, div_lt_iff₀ hposq] at hlow hhigh heven
    generalize (scaled num den (-q)).1 = n at *
    generalize (scaled num den (-q)).2 = d at *
    refine roundHalfEven_eq hpos ?_ ?_ fun hodd => ?_
    · have : (2 * m * d : ℚ) ≤ 2 * n + d := by linarith
      exact_mod_cast this
    · have : (2 * n : ℚ) ≤ 2 * m * d + d := by linarith
      exact_mod_cast this
    · obtain ⟨hlow, hhigh⟩ := heven hodd
      have hleft : (2 * m * d : ℚ) < 2 * n + d := by linarith
      have hright : (2 * n : ℚ) < 2 * m * d + d := by linarith
      exact ⟨by exact_mod_cast hleft, by exact_mod_cast hright⟩
  rw [nearestCode, if_neg (by omega), hexponent]
  exact congrArg (fun r => min ((q + 1074).toNat * hiddenBit + r) infinityCode) hrounded

/-! ### The reals that round to a number -/

/-- The value lies in the interval, which is given in quarters of `2 ^ q`. -/
def RoundingInterval.Contains (i : RoundingInterval) (q : Int) (v : ℚ) : Prop :=
  (i.low * 2 ^ (q - 2) ≤ v ∧ v ≤ i.high * 2 ^ (q - 2)) ∧
    (i.closed = false → i.low * 2 ^ (q - 2) < v ∧ v < i.high * 2 ^ (q - 2))

/-- The value rounds to the magnitude of the number. -/
def Admits (x : Binary64) (v : ℚ) : Prop := x.roundingInterval.Contains x.exponent v

theorem zpow_sub_two (q : Int) : (2 : ℚ) ^ (q - 2) = 2 ^ q / 4 := by
  rw [zpow_sub₀ (by norm_num)]
  norm_num

/-- What lies in the interval is at most half a unit away, and less than that if the mantissa is odd;
below a power of two it is at most a quarter away. -/
theorem Admits.bounds {x : Binary64} {v : ℚ} (h : x.Admits v) (hm : x.mantissa ≠ 0) :
    (x.mantissa - 1 / 2 : ℚ) * 2 ^ x.exponent ≤ v ∧ v ≤ (x.mantissa + 1 / 2) * 2 ^ x.exponent ∧
      (x.mantissa % 2 = 1 → (x.mantissa - 1 / 2 : ℚ) * 2 ^ x.exponent < v ∧
        v < (x.mantissa + 1 / 2) * 2 ^ x.exponent) ∧
      (x.mantissa = hiddenBit → -1074 < x.exponent →
        (x.mantissa - 1 / 4 : ℚ) * 2 ^ x.exponent ≤ v) := by
  obtain ⟨⟨hlow, hhigh⟩, hopen⟩ := h
  have htwo : (0 : ℚ) < 2 ^ x.exponent := by positivity
  have hquarter := zpow_sub_two x.exponent
  have hhighEnd : (x.roundingInterval.high : ℚ) = 4 * x.mantissa + 2 := by
    rw [roundingInterval]
    push_cast
    rfl
  have hlowEnd : (x.roundingInterval.low : ℚ) = 4 * x.mantissa -
      if x.mantissa = hiddenBit ∧ -1074 < x.exponent then 1 else 2 := by
    rw [roundingInterval, Nat.cast_sub]
    · push_cast
      rfl
    · split <;> omega
  have hlowEnd_ge : (4 * x.mantissa - 2 : ℚ) ≤ x.roundingInterval.low := by
    rw [hlowEnd]
    split <;> linarith
  rw [hquarter] at hlow hhigh hopen
  rw [hhighEnd] at hhigh hopen
  refine ⟨by nlinarith, by linarith, fun hodd => ?_, fun heq hleast => ?_⟩
  · obtain ⟨hlow, hhigh⟩ := hopen (by simp [roundingInterval, hodd])
    exact ⟨by nlinarith, by linarith⟩
  · rw [hlowEnd, if_pos ⟨heq, hleast⟩] at hlow
    linarith

/-- Each quotient in the interval of a number is rounded to it. -/
theorem nearestCode_of_admits {x : Binary64} (hx : x.isFinite = true) (hm : x.mantissa ≠ 0)
    {num den : Nat} (hden : 0 < den) (h : x.Admits (num / den)) : nearestCode num den = x.code := by
  have hmantissa : (x.mantissa : ℚ) + 1 ≤ 2 * hiddenBit := by exact_mod_cast x.mantissa_lt
  have hfinite : x.code < infinityCode := of_decide_eq_true hx
  have hbits : (1 : ℚ) ≤ hiddenBit := by norm_num [hiddenBit]
  have htwo : (0 : ℚ) < 2 ^ x.exponent := by positivity
  obtain ⟨hlow, hhigh, hopen, hbelow⟩ := h.bounds hm
  have hnum : 0 < num := by
    rcases Nat.eq_zero_or_pos num with rfl | hnum
    · have hone : (1 : ℚ) ≤ x.mantissa := by exact_mod_cast Nat.one_le_iff_ne_zero.mpr hm
      rw [Nat.cast_zero, zero_div] at hlow
      nlinarith
    · exact hnum
  by_cases hpower : -1074 < x.exponent ∧ (num / den : ℚ) < hiddenBit * 2 ^ x.exponent
  · -- the value is less than the power of two that the number is, so it has one bit more
    obtain ⟨hleast, hlt⟩ := hpower
    have hge : (hiddenBit : ℚ) ≤ x.mantissa := by exact_mod_cast hiddenBit_le_mantissa hleast
    have heq : x.mantissa = hiddenBit := by
      have : (x.mantissa : ℚ) < hiddenBit + 1 := by nlinarith
      have : x.mantissa < hiddenBit + 1 := by exact_mod_cast this
      exact Nat.le_antisymm (by omega) (hiddenBit_le_mantissa hleast)
    have hhalf : (2 : ℚ) ^ (x.exponent - 1) = 2 ^ x.exponent / 2 := zpow_sub_one₀ (by norm_num) _
    have hquarter := hbelow heq hleast
    rw [heq] at hquarter
    have hfits : Fits (num / den) (x.exponent - 1) := by
      refine ⟨by omega, ?_, .inr ?_⟩ <;> rw [hhalf] <;> nlinarith
    have hcode := nearestCode_eq (m := 2 * hiddenBit) hnum hden hfits
      (by rw [hhalf]; push_cast; linarith) (by rw [hhalf]; push_cast; nlinarith)
      (fun hodd => by simp [Nat.mul_mod_right] at hodd)
    have hshift : (x.exponent + 1074).toNat = (x.exponent - 1 + 1074).toNat + 1 := by omega
    rw [hcode, x.code_eq, heq, hshift]
    rw [x.code_eq, heq, hshift] at hfinite
    rw [Nat.min_eq_left (by linarith)]
    ring
  · have hfits : Fits (num / den) x.exponent := by
      refine ⟨x.least_le_exponent, by nlinarith, ?_⟩
      rcases x.least_le_exponent.eq_or_lt with heq | hlt
      · exact .inl heq.symm
      · exact .inr (not_lt.mp fun h => hpower ⟨hlt, h⟩)
    rw [nearestCode_eq hnum hden hfits hlow hhigh hopen, ← x.code_eq]
    exact Nat.min_eq_left hfinite.le

end NestedRows.Binary64
