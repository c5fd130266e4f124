/-!
# Double precision numbers

A `Binary64` is a number of the double format, kept as its sign and the rest of its bits. Nothing
here computes with machine floats: a number is rounded to the format from an exact quotient
(`Binary64.nearest`), so every statement about a number is a statement about natural numbers.
-/

namespace NestedRows

/-- A number of the double format: its sign, and exponent and fraction as one code. Codes grow
with the magnitude; those above `infinityCode` are no numbers. -/
structure Binary64 where
  negative : Bool
  code : Nat
  code_lt : code < 0x8000000000000000 := by decide
  deriving DecidableEq

namespace Binary64

/-- The leading bit of a mantissa of 53 bits, `2 ^ 52`, which is not written down. It is also the
number of fractions that an exponent has. -/
def hiddenBit : Nat := 0x10000000000000

/-- The code of infinity: the largest exponent and no fraction. -/
def infinityCode : Nat := 0x7FF0000000000000

def zero : Binary64 where
  negative := false
  code := 0

def infinity : Binary64 where
  negative := false
  code := infinityCode

def nan : Binary64 where
  negative := false
  code := 0x7FF8000000000000

instance : Inhabited Binary64 := ⟨zero⟩

/-- Whether the value is a number, not an infinity and not `nan`. -/
def isFinite (x : Binary64) : Bool := x.code < infinityCode

def neg (x : Binary64) : Binary64 := { x with negative := !x.negative }

/-- The whole number `m` of the magnitude `m * 2 ^ q`. -/
def mantissa (x : Binary64) : Nat :=
  if x.code / hiddenBit = 0 then x.code % hiddenBit else hiddenBit + x.code % hiddenBit

/-- The exponent `q` of the magnitude `m * 2 ^ q`. -/
def exponent (x : Binary64) : Int := (max (x.code / hiddenBit) 1 : Nat) - 1075

/-- The whole number nearest to `num / den`; of two equally near the even one. -/
def roundHalfEven (num den : Nat) : Nat :=
  let quotient := num / den
  let rest := 2 * (num % den)
  if rest < den then quotient
  else if den < rest then quotient + 1
  else if quotient % 2 = 0 then quotient else quotient + 1

/-- The quotient `num * 2 ^ q / den` as a fraction of two whole numbers. -/
def scaled (num den : Nat) (q : Int) : Nat × Nat :=
  if 0 ≤ q then (num * Nat.pow 2 q.toNat, den) else (num, den * Nat.pow 2 (-q).toNat)

/-- The exponent that gives `num / den` a mantissa of 53 bits, and no less than the least exponent
of the format. -/
def exponentFor (num den : Nat) : Int :=
  let least : Int := (num.log2 : Int) - (den.log2 : Int) - 53
  let (n, d) := scaled num den (-least)
  max (if 2 * hiddenBit ≤ n / d then least + 1 else least) (-1074)

/-- The code of the number nearest to `num / den`. Counting the mantissa on from the exponent
carries into the exponent when rounding reaches the next power of two, and the largest code that
can come out is infinity. -/
def nearestCode (num den : Nat) : Nat :=
  if num = 0 then 0
  else
    let q := exponentFor num den
    let (n, d) := scaled num den (-q)
    min ((q + 1074).toNat * hiddenBit + roundHalfEven n d) infinityCode

theorem nearestCode_le (num den : Nat) : nearestCode num den ≤ infinityCode := by
  unfold nearestCode
  split
  · decide
  · exact Nat.min_le_right _ _

/-- The number nearest to `num / den`; of two equally near the one with the even mantissa. -/
def nearest (negative : Bool) (num den : Nat) : Binary64 where
  negative
  code := nearestCode num den
  code_lt := Nat.lt_of_le_of_lt (nearestCode_le num den) (by decide)

def ofInt (n : Int) : Binary64 := nearest (n < 0) n.natAbs 1

def mul (x y : Binary64) : Binary64 :=
  let (n, d) := scaled (x.mantissa * y.mantissa) 1 (x.exponent + y.exponent)
  nearest (x.negative != y.negative) n d

/-- The quotient, rounded; signs multiply. The divisor is not zero. -/
def div (x y : Binary64) : Binary64 :=
  let (n, d) := scaled x.mantissa y.mantissa (x.exponent - y.exponent)
  nearest (x.negative != y.negative) n d

end Binary64

end NestedRows
