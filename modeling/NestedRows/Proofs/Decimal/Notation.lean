import NestedRows.Decimal.Notation
import NestedRows.Proofs.Decimal.Shortest
/-!
# The text of a number reads back

The text of a finite number is read as the same number again (`ofText?_render`), with its sign, in both
notations. Wherever the point stands and whether there is an exponent, the text writes down the shortest
decimal of the number, and this lies among the reals that round to it. So the text tells more than the number
that a double is: the two zeros are one number (`value_eq_iff`) with two texts.
-/

namespace NestedRows

/-! ### Digits -/

theorem digitsValue_append (a b : List Char) :
    digitsValue (a ++ b) = digitsValue a * 10 ^ b.length + digitsValue b := by
  have hfrom : ∀ (l : List Char) (n : Nat), l.foldl (fun n d => n * 10 + (d.toNat - '0'.toNat)) n
      = n * 10 ^ l.length + digitsValue l := by
    intro l
    induction l with
    | nil => simp [digitsValue]
    | cons d rest ih =>
      intro n
      rw [digitsValue, List.foldl_cons, List.foldl_cons, ih, ih, List.length_cons, pow_succ]
      ring
  rw [digitsValue, List.foldl_append, hfrom b]
  rfl

namespace Binary64

theorem digitsValue_digitsOf (n : Nat) : digitsValue (digitsOf n) = n := by
  have hstep : (fun n (d : Char) => n * 10 + (d.toNat - '0'.toNat))
      = fun n (d : Char) => 10 * n + (d.toNat - '0'.toNat) := by
    funext n d
    rw [Nat.mul_comm]
  have hvalue : Nat.ofDigitChars 10 (digitsOf n) 0 = n := Nat.ofDigitChars_ten_toDigits
  rwa [Nat.ofDigitChars, ← hstep] at hvalue

theorem digitsValue_zeros (n : Nat) : digitsValue (zeros n) = 0 := by
  induction n with
  | zero => rfl
  | succ n ih =>
    rw [zeros, List.replicate_succ, ← List.singleton_append, digitsValue_append]
    rw [zeros] at ih
    rw [ih, Nat.add_zero]
    exact Nat.zero_mul _

theorem isDigit_of_mem_digitsOf {n : Nat} {c : Char} (h : c ∈ digitsOf n) : c.isDigit = true :=
  Nat.isDigit_of_mem_toDigits (by decide) (by decide) h

theorem isDigit_of_mem_zeros {n : Nat} {c : Char} (h : c ∈ zeros n) : c.isDigit = true := by
  obtain rfl := List.eq_of_mem_replicate h
  rfl

theorem length_digitsOf_pos (n : Nat) : 0 < (digitsOf n).length :=
  List.length_pos_iff.mpr Nat.toDigits_ne_nil

theorem lt_ten_pow_length (n : Nat) : n < 10 ^ (digitsOf n).length :=
  (Nat.length_toDigits_le_iff (by decide) (length_digitsOf_pos n)).mp (Nat.le_refl _)

theorem ten_pow_length_le {n : Nat} (hn : 0 < n) : 10 ^ (digitsOf n).length ≤ 10 * n := by
  obtain ⟨l, hl⟩ := Nat.exists_eq_succ_of_ne_zero (length_digitsOf_pos n).ne'
  rw [hl, pow_succ, Nat.mul_comm]
  refine Nat.mul_le_mul_left 10 ?_
  by_contra hlt
  rcases Nat.eq_zero_or_pos l with rfl | hpos
  · omega
  · have := (Nat.length_toDigits_le_iff (by decide) hpos).mpr (not_le.mp hlt)
    rw [digitsOf] at hl
    omega

/-! ### The value of a decimal -/

theorem code_eq_zero_iff {x : Binary64} : x.code = 0 ↔ x.mantissa = 0 := by
  rw [mantissa]
  constructor
  · intro h
    rw [h]
    rfl
  · intro h
    have hsplit := Nat.div_add_mod x.code hiddenBit
    have hbit : 0 < hiddenBit := by decide
    split at h
    case isTrue hzero => rw [hzero] at hsplit; omega
    case isFalse => omega

/-- The reals that round to a number are those of its size. -/
theorem Admits.size {x : Binary64} {v : ℚ} (h : x.Admits v) (hm : x.mantissa ≠ 0) :
    (2 : ℚ) ^ (x.exponent - 1) ≤ v ∧ v < 2 ^ (x.exponent + 53) := by
  obtain ⟨hlow, hhigh, -⟩ := h.bounds hm
  have hmantissa : (x.mantissa : ℚ) + 1 ≤ 2 * hiddenBit := by exact_mod_cast x.mantissa_lt
  have hone : (1 : ℚ) ≤ x.mantissa := by exact_mod_cast Nat.one_le_iff_ne_zero.mpr hm
  have htwo : (0 : ℚ) < 2 ^ x.exponent := by positivity
  have hhalf : (2 : ℚ) ^ (x.exponent - 1) = 2 ^ x.exponent / 2 := zpow_sub_one₀ (by norm_num) _
  have hbits : (2 : ℚ) ^ (x.exponent + 53) = 2 * hiddenBit * 2 ^ x.exponent := by
    rw [zpow_add₀ (by norm_num), mul_comm]
    congr 1
    norm_num [hiddenBit]
  constructor
  · rw [hhalf]
    nlinarith
  · rw [hbits]
    nlinarith

theorem quotient_eq (c : Nat) (k : Int) :
    ((c * Nat.pow 10 k.toNat : Nat) / (Nat.pow 10 (-k).toNat : Nat) : ℚ) = c * 10 ^ k := by
  have hpow : (10 : ℚ) ^ (-k).toNat ≠ 0 := by positivity
  simp only [Nat.pow_eq, Nat.cast_mul, Nat.cast_pow, Nat.cast_ofNat]
  rw [div_eq_iff hpow, mul_assoc, ← zpow_natCast, ← zpow_natCast, ← zpow_add₀ (by norm_num)]
  congr 2
  omega

/-- A decimal that lies among the reals that round to a number is within the range that is looked at,
and read as the number. -/
theorem ofDecimal_of_admits {x : Binary64} (hx : x.isFinite = true) (hm : x.mantissa ≠ 0) {c : Nat}
    {k : Int} (h : x.Admits (c * 10 ^ k)) : ofDecimal x.negative c k = x := by
  obtain ⟨hge, hlt⟩ := h.size hm
  have hleast := x.least_le_exponent
  have hmost := exponent_le hx
  have hone : (1 : ℚ) < 10 := by norm_num
  have hc : 0 < c := by
    rcases Nat.eq_zero_or_pos c with rfl | hc
    · rw [Nat.cast_zero, zero_mul] at hge
      exact absurd hge (not_le.mpr (by positivity))
    · exact hc
  have hsmall : -400 ≤ ((digitsOf c).length : Int) + k := by
    rw [← zpow_le_zpow_iff_right₀ hone]
    calc (10 : ℚ) ^ (-400 : Int)
        ≤ 2 ^ (x.exponent - 1) := ten_zpow_le_two_zpow (by omega) (by omega)
      _ ≤ c * 10 ^ k := hge
      _ ≤ 10 ^ (digitsOf c).length * 10 ^ k := by
          gcongr
          exact_mod_cast (lt_ten_pow_length c).le
      _ = 10 ^ (((digitsOf c).length : Int) + k) := by
          rw [zpow_add₀ (by norm_num), zpow_natCast]
  have hlarge : ((digitsOf c).length : Int) + k < 400 + 1 := by
    rw [← zpow_lt_zpow_iff_right₀ hone]
    calc (10 : ℚ) ^ (((digitsOf c).length : Int) + k)
        = 10 ^ (digitsOf c).length * 10 ^ k := by rw [zpow_add₀ (by norm_num), zpow_natCast]
      _ ≤ 10 * c * 10 ^ k := by
          gcongr
          exact_mod_cast ten_pow_length_le hc
      _ = c * 10 ^ k * 10 := by ring
      _ < 2 ^ (x.exponent + 53) * 10 := by gcongr
      _ ≤ 10 ^ (400 : Int) * 10 := by
          gcongr
          exact two_zpow_le_ten_zpow (by omega) (by omega)
      _ = 10 ^ (400 + 1 : Int) := (zpow_add_one₀ (by norm_num) _).symm
  rw [← quotient_eq] at h
  have hcode := nearestCode_of_admits hx hm (Nat.pow_pos (by decide)) h
  rw [ofDecimal]
  dsimp only
  rw [if_neg (by omega), if_neg (by omega)]
  exact eq_of_code rfl hcode

/-! ### Reading a decimal -/

theorem toLower_of_isDigit {c : Char} (h : c.isDigit = true) : c.toLower = c := by
  rw [Char.isDigit_iff_toNat] at h
  refine dif_neg ?_
  rintro ⟨hge, -⟩
  have : 'A'.toNat ≤ c.toNat := hge
  simp at this h
  omega

theorem splitSign_of_isDigit {d : Char} {rest : List Char} (h : d.isDigit = true) :
    splitSign (d :: rest) = (false, d :: rest) := by
  rw [splitSign]
  · rintro rest' ⟨⟩
    simp at h
  · rintro rest' ⟨⟩
    simp at h

theorem exists_sign (s : List Char) :
    ∃ sign, (sign = [] ∨ sign = ['-'] ∨ sign = ['+']) ∧ s = sign ++ (splitSign s).2 := by
  rw [splitSign.eq_def]
  split
  · exact ⟨['-'], by simp, rfl⟩
  · exact ⟨['+'], by simp, rfl⟩
  · exact ⟨[], by simp, rfl⟩

theorem span_digits {l rest : List Char} (hl : ∀ c ∈ l, c.isDigit = true)
    (hrest : ∀ c ∈ rest.head?, c.isDigit = false) : (l ++ rest).span Char.isDigit = (l, rest) := by
  rw [List.span_eq_takeWhile_dropWhile, List.takeWhile_append_of_pos hl,
    List.dropWhile_append_of_pos hl]
  cases rest with
  | nil => simp
  | cons c rest => simp [hrest c rfl]

/-- The text writes down the value: digits, with more behind a point or not, and an exponent. -/
inductive Writes (text : List Char) (v : ℚ) : Prop
  | mk (whole point fraction exponent : List Char) (k : Int) (hne : whole ≠ [])
      (hwhole : ∀ c ∈ whole, c.isDigit = true) (hfraction : ∀ c ∈ fraction, c.isDigit = true)
      (hpoint : point = '.' :: fraction ∨ point = [] ∧ fraction = [])
      (hstart : exponent = [] ∨ ∃ rest, exponent = 'e' :: rest) (hk : exponentOf? exponent = some k)
      (hreal : point ≠ [] ∨ exponent ≠ []) (htext : text = whole ++ (point ++ exponent))
      (hvalue : v = digitsValue (whole ++ fraction) * 10 ^ (k - fraction.length))

/-- The text is not a mere row of digits. -/
theorem Writes.not_all_digits {text : List Char} {v : ℚ} (h : Writes text v) :
    ¬ text.all Char.isDigit = true := by
  obtain ⟨whole, point, fraction, exponent, k, -, -, -, hpoint, hstart, -, hreal, rfl, -⟩ := h
  intro hall
  have hdigit : ∀ c ∈ point ++ exponent, c.isDigit = true :=
    fun c hc => List.all_eq_true.mp hall c (List.mem_append_right _ hc)
  rcases hpoint with rfl | ⟨rfl, rfl⟩
  · have := hdigit '.' (by simp)
    simp at this
  · rcases hstart with rfl | ⟨rest, rfl⟩
    · simp at hreal
    · have := hdigit 'e' (by simp)
      simp at this

theorem Writes.exists_head {text : List Char} {v : ℚ} (h : Writes text v) :
    ∃ d ∈ text.head?, d.isDigit = true := by
  obtain ⟨whole, point, fraction, exponent, k, hne, hwhole, -, -, -, -, -, rfl, -⟩ := h
  obtain ⟨d, whole', rfl⟩ := List.exists_cons_of_ne_nil hne
  exact ⟨d, rfl, hwhole d List.mem_cons_self⟩

theorem Writes.ofText?_eq {text : List Char} {v : ℚ} (h : Writes text v) (negative : Bool) :
    ∃ (c : Nat) (k : Int), v = c * 10 ^ k ∧ ofText? (String.ofList ((if negative then ['-'] else []) ++ text))
      = some (ofDecimal negative c k) := by
  cases h with
  | mk whole point fraction exponent k hne hwhole hfraction hpoint hstart hk _ htext hvalue =>
  refine ⟨_, _, hvalue, ?_⟩
  subst htext
  obtain ⟨d, whole', rfl⟩ := List.exists_cons_of_ne_nil hne
  have hd := hwhole d List.mem_cons_self
  have hexponent : ∀ c ∈ exponent.head?, c.isDigit = false := by
    rcases hstart with rfl | ⟨rest, rfl⟩ <;> simp
  have hsign : splitSign ((if negative then ['-'] else []) ++ (d :: whole' ++ (point ++ exponent)))
      = (negative, d :: whole' ++ (point ++ exponent)) := by
    cases negative
    · exact splitSign_of_isDigit hd
    · rfl
  have hletter : ∀ s : String, (∀ c ∈ s.toList.head?, c.isDigit = false) →
      String.ofList ((d :: whole' ++ (point ++ exponent)).map Char.toLower) ≠ s := by
    rintro s hs rfl
    have := hs d (by simp [toLower_of_isDigit hd])
    rw [hd] at this
    cases this
  have hspan : (d :: whole' ++ (point ++ exponent)).span Char.isDigit
      = (d :: whole', point ++ exponent) := by
    refine span_digits hwhole ?_
    rcases hpoint with rfl | ⟨rfl, -⟩
    · simp
    · exact hexponent
  rw [ofText?, String.toList_ofList, hsign]
  dsimp only
  split
  case h_1 h => exact absurd h (hletter _ (by simp))
  case h_2 h => exact absurd h (hletter _ (by simp))
  case h_3 h => exact absurd h (hletter _ (by simp))
  case h_4 =>
    rw [hspan]
    rcases hpoint with rfl | ⟨rfl, rfl⟩
    · have hspan' := span_digits hfraction hexponent
      simp only [List.cons_append, hspan']
      simp [hk]
    · rcases hstart with rfl | ⟨rest, rfl⟩ <;> simp [hk]

theorem exponentOf?_signed (f : FloatNotation) (e : Int) :
    exponentOf? ('e' :: (if e < 0 then ['-'] else if f.plusSign then ['+'] else [])
      ++ digitsOf e.natAbs) = some e := by
  have hdigits : (digitsOf e.natAbs).all Char.isDigit = true :=
    List.all_eq_true.mpr fun c hc => isDigit_of_mem_digitsOf hc
  have hne : digitsOf e.natAbs ≠ [] := Nat.toDigits_ne_nil
  obtain ⟨d, rest, hcons⟩ := List.exists_cons_of_ne_nil hne
  have hd : d.isDigit = true := isDigit_of_mem_digitsOf (hcons ▸ List.mem_cons_self)
  have hsign : splitSign ((if e < 0 then ['-'] else if f.plusSign then ['+'] else [])
      ++ digitsOf e.natAbs) = (decide (e < 0), digitsOf e.natAbs) := by
    by_cases hneg : e < 0
    · rw [if_pos hneg, decide_eq_true hneg]
      rfl
    · rw [if_neg hneg, decide_eq_false hneg]
      cases f.plusSign
      · rw [hcons]
        exact splitSign_of_isDigit hd
      · rfl
  rw [List.cons_append, exponentOf?, hsign]
  dsimp only
  rw [if_pos ⟨.inl rfl, by simp [hne], hdigits⟩, digitsValue_digitsOf]
  by_cases hneg : e < 0
  · rw [decide_eq_true hneg, if_pos rfl]
    congr 1
    omega
  · rw [decide_eq_false hneg, if_neg (by simp)]
    congr 1
    omega

/-! ### Reading what is written -/

theorem isDigit_of_mem_append {l m : List Char} (hl : ∀ d ∈ l, d.isDigit = true)
    (hm : ∀ d ∈ m, d.isDigit = true) : ∀ d ∈ l ++ m, d.isDigit = true :=
  fun d hd => (List.mem_append.mp hd).elim (hl d) (hm d)

theorem writes_plain (c : Nat) (k : Int) : Writes (plain (digitsOf c) k) (c * 10 ^ k) := by
  have hlength := length_digitsOf_pos c
  have hdigits : ∀ d ∈ digitsOf c, d.isDigit = true := fun d hd => isDigit_of_mem_digitsOf hd
  have hzeros : ∀ n, ∀ d ∈ zeros n, d.isDigit = true := fun _ d hd => isDigit_of_mem_zeros hd
  have hzero : ∀ d ∈ ['0'], d.isDigit = true := by simp
  rw [plain]
  split_ifs with hk hwhole
  · -- the point stands behind all digits
    refine .mk (digitsOf c ++ zeros k.toNat) ['.', '0'] ['0'] [] 0 (by simp [digitsOf, Nat.toDigits_ne_nil])
      (isDigit_of_mem_append hdigits (hzeros _)) hzero (.inl rfl) (.inl rfl) rfl
      (.inl (List.cons_ne_nil _ _)) (by simp) ?_
    lift k to Nat using hk
    rw [digitsValue_append, digitsValue_append, digitsValue_digitsOf, digitsValue_zeros, zeros,
      List.length_replicate]
    simp [digitsValue]
  · -- it stands between two of them
    generalize hn : (((digitsOf c).length : Int) + k).toNat = n
    refine .mk ((digitsOf c).take n) ('.' :: (digitsOf c).drop n) ((digitsOf c).drop n) [] 0 ?_
      (fun d hd => hdigits d (List.mem_of_mem_take hd))
      (fun d hd => hdigits d (List.mem_of_mem_drop hd)) (.inl rfl) (.inl rfl) rfl
      (.inl (List.cons_ne_nil _ _)) (by simp) ?_
    · simp [digitsOf, Nat.toDigits_ne_nil]
      omega
    · rw [List.take_append_drop, digitsValue_digitsOf, List.length_drop]
      congr 2
      omega
  · -- it stands in front of them
    generalize hn : (-(((digitsOf c).length : Int) + k)).toNat = n
    refine .mk ['0'] ('.' :: (zeros n ++ digitsOf c)) (zeros n ++ digitsOf c) [] 0 (List.cons_ne_nil _ _)
      hzero (isDigit_of_mem_append (hzeros n) hdigits) (.inl rfl) (.inl rfl) rfl
      (.inl (List.cons_ne_nil _ _)) (by simp) ?_
    rw [digitsValue_append, digitsValue_append, digitsValue_digitsOf, digitsValue_zeros,
      List.length_append, zeros, List.length_replicate]
    have hk' : k = 0 - ((n + (digitsOf c).length : Nat) : Int) := by omega
    rw [← hk']
    simp [digitsValue]

theorem writes_scientific (f : FloatNotation) (c : Nat) (k : Int) :
    Writes (scientific f (digitsOf c) k) (c * 10 ^ k) := by
  have hdigits : ∀ d ∈ digitsOf c, d.isDigit = true := fun d hd => isDigit_of_mem_digitsOf hd
  have hvalue := digitsValue_digitsOf c
  generalize hds : digitsOf c = ds at *
  match ds with
  | [] => exact absurd hds Nat.toDigits_ne_nil
  | [d] =>
    refine .mk [d] [] [] _ _ (List.cons_ne_nil _ _) hdigits (by simp) (.inr ⟨rfl, rfl⟩) (.inr ⟨_, rfl⟩)
      (exponentOf?_signed f (((1 : Nat) : Int) + k - 1)) (.inr (List.cons_ne_nil _ _))
      (by simp [scientific]) ?_
    rw [List.append_nil, hvalue]
    simp
  | d :: d' :: rest =>
    have hfirst : ∀ e ∈ [d], e.isDigit = true :=
      fun e he => hdigits e (List.mem_singleton.mp he ▸ List.mem_cons_self)
    refine .mk [d] ('.' :: d' :: rest) (d' :: rest) _ _ (List.cons_ne_nil _ _) hfirst
      (fun e he => hdigits e (List.mem_cons_of_mem _ he)) (.inl rfl) (.inr ⟨_, rfl⟩)
      (exponentOf?_signed f (((d :: d' :: rest).length : Int) + k - 1)) (.inl (List.cons_ne_nil _ _))
      (by simp [scientific]) ?_
    rw [List.singleton_append, hvalue]
    congr 2
    simp only [List.length_cons]
    push_cast
    ring

/-- The text of a finite number writes down zero, or a decimal that rounds to the number. -/
theorem exists_writes_render {x : Binary64} (hx : x.isFinite = true) (f : FloatNotation) :
    ∃ text v, x.render f = String.ofList ((if x.negative then ['-'] else []) ++ text) ∧ Writes text v ∧
      (x.mantissa = 0 ∧ v = 0 ∨ x.mantissa ≠ 0 ∧ x.Admits v) := by
  have hsign : ∀ text : List Char, (if x.negative then '-' :: text else text)
      = (if x.negative then ['-'] else []) ++ text := by
    intro text
    cases x.negative <;> rfl
  rw [render]
  dsimp only
  rw [hsign]
  by_cases hm : x.mantissa = 0
  · rw [if_pos hm]
    refine ⟨_, 0, rfl, ?_, .inl ⟨hm, rfl⟩⟩
    exact .mk ['0'] ['.', '0'] ['0'] [] 0 (List.cons_ne_nil _ _) (by simp) (by simp) (.inl rfl) (.inl rfl)
      rfl (.inl (List.cons_ne_nil _ _)) rfl (by simp [digitsValue])
  · have hadmits := admits_shortest hx hm
    rw [if_neg hm]
    generalize x.shortest = decimal at hadmits ⊢
    obtain ⟨c, k⟩ := decimal
    refine ⟨_, _, rfl, ?_, .inr ⟨hm, hadmits⟩⟩
    dsimp only
    split
    · exact writes_plain c k
    · exact writes_scientific f c k

/-- The text of a finite number is read as the number. -/
theorem ofText?_render {x : Binary64} (hx : x.isFinite = true) (f : FloatNotation) :
    ofText? (x.render f) = some x := by
  obtain ⟨text, v, heq, hwrites, hvalue⟩ := exists_writes_render hx f
  obtain ⟨c, k, rfl, hread⟩ := hwrites.ofText?_eq x.negative
  rw [heq, hread]
  rcases hvalue with ⟨hm, hzero⟩ | ⟨hm, hadmits⟩
  · have hten : (10 : ℚ) ^ k ≠ 0 := by positivity
    have hc : c = 0 := by exact_mod_cast (mul_eq_zero_iff_right hten).mp hzero
    rw [hc, ofDecimal, if_pos (.inl rfl)]
    exact congrArg some (eq_of_code rfl (code_eq_zero_iff.mpr hm).symm)
  · rw [ofDecimal_of_admits hx hm hadmits]

theorem eq_of_render_eq {x y : Binary64} (hx : x.isFinite = true) (hy : y.isFinite = true)
    {f : FloatNotation} (h : x.render f = y.render f) : x = y := by
  have hread := ofText?_render hx f
  rw [h, ofText?_render hy f] at hread
  exact (Option.some.inj hread).symm

/-! ### The number that a double is -/

def magnitude (x : Binary64) : ℚ := x.mantissa * 2 ^ x.exponent

def value (x : Binary64) : ℚ := if x.negative then -x.magnitude else x.magnitude

theorem fits_magnitude (x : Binary64) : Fits x.magnitude x.exponent := by
  have htwo : (0 : ℚ) < 2 ^ x.exponent := by positivity
  have hlt : (x.mantissa : ℚ) < 2 * hiddenBit := by exact_mod_cast x.mantissa_lt
  refine ⟨x.least_le_exponent, mul_lt_mul_of_pos_right hlt htwo, ?_⟩
  rcases x.least_le_exponent.eq_or_lt with heq | hgreater
  · exact .inl heq.symm
  · have hle : (hiddenBit : ℚ) ≤ x.mantissa := by exact_mod_cast hiddenBit_le_mantissa hgreater
    exact .inr (mul_le_mul_of_nonneg_right hle htwo.le)

theorem code_eq_of_magnitude_eq {x y : Binary64} (h : x.magnitude = y.magnitude) : x.code = y.code := by
  have hx := x.fits_magnitude
  have hy := y.fits_magnitude
  rw [h] at hx
  have hexponent : x.exponent = y.exponent := Int.le_antisymm (hx.le_of_fits hy) (hy.le_of_fits hx)
  rw [magnitude, magnitude, hexponent] at h
  have htwo : (2 : ℚ) ^ y.exponent ≠ 0 := by positivity
  have hmantissa : x.mantissa = y.mantissa := by exact_mod_cast mul_right_cancel₀ htwo h
  rw [x.code_eq, y.code_eq, hexponent, hmantissa]

theorem magnitude_nonneg (x : Binary64) : 0 ≤ x.magnitude := by
  rw [magnitude]
  positivity

theorem code_eq_zero_of_magnitude {x : Binary64} (h : x.magnitude = 0) : x.code = 0 := by
  rw [magnitude, mul_eq_zero] at h
  have htwo : (2 : ℚ) ^ x.exponent ≠ 0 := by positivity
  exact code_eq_zero_iff.mpr (by exact_mod_cast h.resolve_right htwo)

/-- Two doubles are one number only if they are the same or the two zeros. -/
theorem value_eq_iff {x y : Binary64} : x.value = y.value ↔ x = y ∨ x.code = 0 ∧ y.code = 0 := by
  constructor
  · intro h
    have hx := x.magnitude_nonneg
    have hy := y.magnitude_nonneg
    by_cases hsign : x.negative = y.negative
    · have hmagnitude : x.magnitude = y.magnitude := by
        rw [value, value, hsign] at h
        cases hy : y.negative with
        | true => simpa [hy] using h
        | false => simpa [hy] using h
      exact .inl (eq_of_code hsign (code_eq_of_magnitude_eq hmagnitude))
    · have hzero : x.magnitude = 0 ∧ y.magnitude = 0 := by
        rw [value, value] at h
        cases hnx : x.negative <;> cases hny : y.negative
        · exact absurd (hnx.trans hny.symm) hsign
        · rw [hnx, hny, if_neg Bool.false_ne_true, if_pos rfl] at h
          constructor <;> linarith
        · rw [hnx, hny, if_pos rfl, if_neg Bool.false_ne_true] at h
          constructor <;> linarith
        · exact absurd (hnx.trans hny.symm) hsign
      exact .inr ⟨code_eq_zero_of_magnitude hzero.1, code_eq_zero_of_magnitude hzero.2⟩
  · rintro (rfl | ⟨hx, hy⟩)
    · rfl
    · have hzero : ∀ z : Binary64, z.code = 0 → z.value = 0 := by
        intro z hz
        rw [value, magnitude, code_eq_zero_iff.mp hz]
        simp
      rw [hzero x hx, hzero y hy]

end Binary64

end NestedRows
