import NestedRows.Decimal.Binary64
/-!
# The shortest decimal that reads back

Every real number near enough to a `Binary64` rounds to it. Of the decimals in that interval
`Binary64.shortest` takes one on the coarsest grid of powers of ten, and there the one nearest to
the value, the even one of two equally near. So it has the fewest digits with which the number
reads back.
-/

namespace NestedRows.Binary64

/-- The reals that round to a number, as quarters of the unit of its mantissa: from `low` to
`high`, with both ends if `closed`. -/
structure RoundingInterval where
  low : Nat
  value : Nat
  high : Nat
  closed : Bool

/-- The interval of a number. Below a power of two the neighbour is only half as far away. -/
def roundingInterval (x : Binary64) : RoundingInterval where
  low := 4 * x.mantissa - if x.mantissa = hiddenBit ∧ -1074 < x.exponent then 1 else 2
  value := 4 * x.mantissa
  high := 4 * x.mantissa + 2
  closed := x.mantissa % 2 = 0

/-- Whether `point * step` lies in the interval, whose ends are multiples of `unit`. -/
def RoundingInterval.holds (i : RoundingInterval) (unit point step : Nat) : Bool :=
  if i.closed then i.low * unit ≤ point * step && point * step ≤ i.high * unit
  else i.low * unit < point * step && point * step < i.high * unit

/-- The unit of the interval and the step of the grid `10 ^ k`, brought to one denominator. -/
def gridScale (q k : Int) : Nat × Nat :=
  (Nat.pow 2 (q - 2).toNat * Nat.pow 10 (-k).toNat, Nat.pow 2 (2 - q).toNat * Nat.pow 10 k.toNat)

/-- The point of the grid `10 ^ k` that rounds to the number and is nearest to it. -/
def pointOnGrid? (i : RoundingInterval) (q k : Int) : Option Nat :=
  let (unit, step) := gridScale q k
  let below := i.value * unit / step
  let rest := 2 * (i.value * unit % step)
  match i.holds unit below step, i.holds unit (below + 1) step with
  | true, true =>
    if rest < step then some below
    else if step < rest then some (below + 1)
    else if below % 2 = 0 then some below else some (below + 1)
  | true, false => some below
  | false, true => some (below + 1)
  | false, false => none

/-- The first hit on the grids `10 ^ k`, `10 ^ (k - 1)`, and so on. -/
def coarsestPoint (i : RoundingInterval) (q : Int) : Nat → Int → Nat × Int
  | 0, k => (0, k)
  | grids + 1, k =>
    match pointOnGrid? i q k with
    | some point => (point, k)
    | none => coarsestPoint i q grids (k - 1)

/-- A power of ten that is larger than `m * 2 ^ q`; the fraction is just above the logarithm of
two. -/
def decimalBound (m : Nat) (q : Int) : Int :=
  Int.fdiv ((m.log2 + 1 + q) * 30103) 100000 + 2

/-- The magnitude of a finite number other than zero as `c * 10 ^ k`, with the fewest digits that
read back. Seventeen digits always do, so twenty-two grids are enough. -/
def shortest (x : Binary64) : Nat × Int :=
  coarsestPoint x.roundingInterval x.exponent 22 (decimalBound x.mantissa x.exponent)

end NestedRows.Binary64
