import NestedRows.Proofs.Decimal.Nearest
/-!
# The shortest decimal reads back

The decimal that `Binary64.shortest` takes for a number lies in the interval of the reals that round to
it (`admits_shortest`). A point of a grid is only taken if it lies in the interval, so it remains to see
that some grid has such a point. The last of the grids is finer than a quarter unit of the mantissa, as
a comparison of powers of ten and two shows, and then the point below the number lies in the interval.
-/

namespace NestedRows.Binary64

/-! ### Points of a grid -/

section Grid

variable {i : RoundingInterval} {q k : Int}

theorem gridScale_spec (q k : Int) : 0 < (gridScale q k).1 ∧ 0 < (gridScale q k).2 ∧
    ((gridScale q k).2 : ℚ) * 2 ^ (q - 2) = (gridScale q k).1 * 10 ^ k := by
  have hpos : ∀ b n : Nat, 0 < b → 0 < Nat.pow b n := fun _ _ hb => Nat.pow_pos hb
  have hsplit : ∀ (b : ℚ) (n : Int), b ≠ 0 → b ^ n * b ^ (-n).toNat = b ^ n.toNat := by
    intro b n hb
    rw [← zpow_natCast, ← zpow_natCast, ← zpow_add₀ hb]
    congr 1
    omega
  refine ⟨Nat.mul_pos (hpos _ _ (by decide)) (hpos _ _ (by decide)),
    Nat.mul_pos (hpos _ _ (by decide)) (hpos _ _ (by decide)), ?_⟩
  have htwo := hsplit 2 (q - 2) (by norm_num)
  have hten := hsplit 10 k (by norm_num)
  rw [neg_sub] at htwo
  simp only [gridScale, Nat.pow_eq, Nat.cast_mul, Nat.cast_pow, Nat.cast_ofNat]
  rw [← htwo, ← hten]
  ring

/-- Whether a point of the grid lies in the interval is decided by comparing whole numbers. -/
theorem holds_iff {point : Nat} : i.holds (gridScale q k).1 point (gridScale q k).2 = true ↔
    i.Contains q (point * 10 ^ k) := by
  obtain ⟨hunit, hstep, heq⟩ := gridScale_spec q k
  generalize (gridScale q k).1 = unit at *
  generalize (gridScale q k).2 = step at *
  have htwo : (0 : ℚ) < 2 ^ (q - 2) := by positivity
  have hunitq : (0 : ℚ) < unit := by exact_mod_cast hunit
  have hpoint : (point * step : Nat) * (2 : ℚ) ^ (q - 2) = unit * (point * 10 ^ k) := by
    push_cast
    rw [mul_assoc, heq]
    ring
  have hend : ∀ e : Nat, (e * unit : Nat) * (2 : ℚ) ^ (q - 2) = unit * (e * 2 ^ (q - 2)) := by
    intro e
    push_cast
    ring
  have hle : ∀ a b : Nat, a ≤ b ↔ (a : ℚ) * 2 ^ (q - 2) ≤ b * 2 ^ (q - 2) := by
    intro a b
    rw [mul_le_mul_iff_left₀ htwo, Nat.cast_le]
  have hlt : ∀ a b : Nat, a < b ↔ (a : ℚ) * 2 ^ (q - 2) < b * 2 ^ (q - 2) := by
    intro a b
    rw [mul_lt_mul_iff_left₀ htwo, Nat.cast_lt]
  rw [RoundingInterval.holds, RoundingInterval.Contains]
  cases i.closed with
  | true =>
    simp only [if_true, Bool.and_eq_true, decide_eq_true_eq, hle, hpoint, hend,
      mul_le_mul_iff_right₀ hunitq]
    simp
  | false =>
    simp only [Bool.false_eq_true, if_false, Bool.and_eq_true, decide_eq_true_eq, hlt, hpoint, hend,
      mul_lt_mul_iff_right₀ hunitq, true_implies]
    exact ⟨fun h => ⟨⟨h.1.le, h.2.le⟩, h⟩, fun h => h.2⟩

theorem contains_of_pointOnGrid? {point : Nat} (h : pointOnGrid? i q k = some point) :
    i.Contains q (point * 10 ^ k) := by
  rw [← holds_iff]
  simp only [pointOnGrid?] at h
  generalize i.value * (gridScale q k).1 / (gridScale q k).2 = below at h
  cases hbelow : i.holds (gridScale q k).1 below (gridScale q k).2 <;>
    cases habove : i.holds (gridScale q k).1 (below + 1) (gridScale q k).2 <;>
    simp only [hbelow, habove] at h
  · cases h
  · obtain rfl := Option.some.inj h
    exact habove
  · obtain rfl := Option.some.inj h
    exact hbelow
  · split_ifs at h <;> obtain rfl := Option.some.inj h <;> assumption

/-- A grid whose step is at most a quarter unit has a point in the interval. -/
theorem exists_pointOnGrid? (hlow : i.low < i.value) (hhigh : i.value < i.high)
    (hstep : (10 : ℚ) ^ k ≤ 2 ^ (q - 2)) : ∃ point, pointOnGrid? i q k = some point := by
  have hbelow : i.holds (gridScale q k).1 (i.value * (gridScale q k).1 / (gridScale q k).2)
      (gridScale q k).2 = true := by
    obtain ⟨hunit, hpos, heq⟩ := gridScale_spec q k
    have hle : (gridScale q k).2 ≤ (gridScale q k).1 := by
      have hunitq : (0 : ℚ) < (gridScale q k).1 := by exact_mod_cast hunit
      have htwo : (0 : ℚ) < 2 ^ (q - 2) := by positivity
      have : ((gridScale q k).2 : ℚ) * 2 ^ (q - 2) ≤ (gridScale q k).1 * 2 ^ (q - 2) := by
        rw [heq]
        gcongr
      exact_mod_cast (mul_le_mul_iff_left₀ htwo).mp this
    generalize (gridScale q k).1 = unit at *
    generalize (gridScale q k).2 = step at *
    have hsplit := Nat.div_add_mod (i.value * unit) step
    have hrest := Nat.mod_lt (i.value * unit) hpos
    have hdown : i.low * unit + unit ≤ i.value * unit := by
      rw [← Nat.succ_mul]
      exact Nat.mul_le_mul_right _ hlow
    have hup : i.value * unit < i.high * unit := Nat.mul_lt_mul_of_pos_right hhigh hunit
    rw [Nat.mul_comm] at hsplit
    rw [RoundingInterval.holds]
    generalize i.value * unit / step * step = point at *
    split <;> simp <;> omega
  rw [pointOnGrid?]
  simp only [hbelow]
  split
  · split_ifs <;> exact ⟨_, rfl⟩
  · exact ⟨_, rfl⟩
  · simp at *
  · simp at *

theorem contains_coarsestPoint {grids : Nat}
    (h : ∃ n < grids, ∃ point, pointOnGrid? i q (k - n) = some point) :
    i.Contains q ((coarsestPoint i q grids k).1 * 10 ^ (coarsestPoint i q grids k).2) := by
  induction grids generalizing k with
  | zero =>
    obtain ⟨n, hn, -⟩ := h
    omega
  | succ grids ih =>
    rw [coarsestPoint]
    cases hpoint : pointOnGrid? i q k with
    | some point => exact contains_of_pointOnGrid? hpoint
    | none =>
      obtain ⟨n, hn, point, hfound⟩ := h
      cases n with
      | zero => simp [hpoint] at hfound
      | succ n =>
        refine ih ⟨n, by omega, point, ?_⟩
        rw [← hfound]
        congr 1
        push_cast
        ring

end Grid

/-! ### Powers of two and ten -/

theorem ten_pow_le_two_pow {a b : Nat} (h : 10 * a ≤ 3 * b) : 10 ^ a ≤ 2 ^ b := by
  rw [← Nat.pow_le_pow_iff_left (n := 3) (by decide), ← Nat.pow_mul, ← Nat.pow_mul]
  calc 10 ^ (a * 3) = (10 ^ 3) ^ a := by rw [← Nat.pow_mul, Nat.mul_comm]
    _ ≤ (2 ^ 10) ^ a := Nat.pow_le_pow_left (by decide) a
    _ = 2 ^ (10 * a) := (Nat.pow_mul ..).symm
    _ ≤ 2 ^ (b * 3) := Nat.pow_le_pow_right (by decide) (by omega)

theorem two_pow_le_ten_pow {a b : Nat} (h : 28 * b ≤ 93 * a) : 2 ^ b ≤ 10 ^ a := by
  rw [← Nat.pow_le_pow_iff_left (n := 93) (by decide), ← Nat.pow_mul, ← Nat.pow_mul]
  calc 2 ^ (b * 93) = (2 ^ 93) ^ b := by rw [← Nat.pow_mul, Nat.mul_comm]
    _ ≤ (10 ^ 28) ^ b := Nat.pow_le_pow_left (by decide) b
    _ = 10 ^ (28 * b) := (Nat.pow_mul ..).symm
    _ ≤ 10 ^ (a * 93) := Nat.pow_le_pow_right (by decide) (by omega)

/-- Powers of ten and two compare as three tenths of the exponents do, up to some distance. -/
theorem ten_zpow_le_two_zpow {k j : Int} (hk : 10 * k ≤ 3 * j) (hj : 93 * k ≤ 28 * j) :
    (10 : ℚ) ^ k ≤ 2 ^ j := by
  rcases le_total 0 k with hpos | hneg
  · lift k to Nat using hpos
    lift j to Nat using (by omega)
    have := ten_pow_le_two_pow (a := k) (b := j) (by omega)
    exact_mod_cast this
  · obtain ⟨a, rfl⟩ : ∃ a : Nat, k = -a := ⟨(-k).toNat, by omega⟩
    rcases le_total 0 j with hpos | hneg
    · calc (10 : ℚ) ^ (-(a : Int)) ≤ 1 := zpow_le_one_of_nonpos₀ (by norm_num) (by omega)
        _ ≤ 2 ^ j := one_le_zpow₀ (by norm_num) hpos
    · obtain ⟨b, rfl⟩ : ∃ b : Nat, j = -b := ⟨(-j).toNat, by omega⟩
      have := two_pow_le_ten_pow (a := a) (b := b) (by omega)
      rw [zpow_neg, zpow_neg, zpow_natCast, zpow_natCast]
      gcongr
      exact_mod_cast this

theorem two_zpow_le_ten_zpow {k j : Int} (hk : 3 * j ≤ 10 * k) (hj : 28 * j ≤ 93 * k) :
    (2 : ℚ) ^ j ≤ 10 ^ k := by
  have h : (10 : ℚ) ^ (-k) ≤ 2 ^ (-j) := ten_zpow_le_two_zpow (by omega) (by omega)
  rwa [zpow_neg, zpow_neg, inv_le_inv₀ (by positivity) (by positivity)] at h

/-! ### The shortest decimal -/

theorem log2_mantissa_le (x : Binary64) : x.mantissa.log2 ≤ 52 := by
  rcases Nat.eq_zero_or_pos x.mantissa with hzero | hpos
  · rw [hzero]
    decide
  · have : x.mantissa.log2 < 53 := (Nat.log2_lt (by omega)).mpr x.mantissa_lt
    omega

theorem admits_shortest {x : Binary64} (hx : x.isFinite = true) (hm : x.mantissa ≠ 0) :
    x.Admits (x.shortest.1 * 10 ^ x.shortest.2) := by
  refine contains_coarsestPoint ⟨21, by decide, exists_pointOnGrid? ?_ ?_ ?_⟩
  · rw [roundingInterval]
    dsimp only
    split <;> omega
  · rw [roundingInterval]
    dsimp only
    omega
  · have hbits := x.log2_mantissa_le
    have hleast := x.least_le_exponent
    have hmost := exponent_le hx
    rw [decimalBound, Int.fdiv_eq_ediv_of_nonneg _ (by decide)]
    apply ten_zpow_le_two_zpow <;> omega

end NestedRows.Binary64
