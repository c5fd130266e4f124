import NestedRows.Json.Token
import NestedRows.Json.Basic
/-!
# Numbers of JSON text

A whole number in the range of 64 bits is exact. Any other number is read with two roundings: the
leading digits that fit into 64 bits are rounded to a double, which is then multiplied or divided by
a rounded power of ten. The last bit can differ from the nearest double; a number beyond the range
is an error.
-/

namespace NestedRows.Json

/-- The largest significand that is kept exactly: that of 64 bits. -/
def maxSignificand : Nat := 0xFFFFFFFFFFFFFFFF

/-- The value of the leading digits that fit, and the number of digits left over. -/
def significand : Nat → List Char → Nat × Nat
  | acc, [] => (acc, 0)
  | acc, d :: rest =>
    let next := acc * 10 + (d.toNat - '0'.toNat)
    if maxSignificand < next then (acc, rest.length + 1) else significand next rest

/-- The power of ten in the format, for exponents up to 308. -/
def powerOfTen (k : Nat) : Binary64 := Binary64.nearest false (Nat.pow 10 k) 1

/-- Scales a number by a power of ten with one rounding. An exponent below -308 is taken in steps of
308, and three of these reach zero from any significand. -/
def scaleByTen : Nat → Binary64 → Int → Option Binary64
  | 0, _, _ => some Binary64.zero
  | steps + 1, x, k =>
    if k.natAbs ≤ 308 then
      if 0 ≤ k then
        let y := x.mul (powerOfTen k.natAbs)
        if y.isFinite then some y else none
      else some (x.div (powerOfTen k.natAbs))
    else if x.code = 0 then some x
    else if 0 ≤ k then none
    else scaleByTen steps (x.div (powerOfTen 308)) (k + 308)

/-- The exponent as written; past 32 bits only its sign matters. -/
def exponentValue : Option (Bool × List Char) → Int
  | none => 0
  | some (negative, digits) =>
    let n := min (digitsValue digits) 0x80000000
    if negative then -n else n

/-- The leading digits of the number that fit into 64 bits, and the power of ten behind them. -/
def NumberText.scaledDigits (n : NumberText) : Nat × Int :=
  let fraction := n.fraction.getD []
  let (whole, dropped) := significand 0 n.whole
  let (c, rest) := significand whole fraction
  (c, (dropped : Int) - ((fraction.length - rest : Nat) : Int))

def NumberText.float? (n : NumberText) : Option Json :=
  let (c, k) := n.scaledDigits
  (scaleByTen 4 (Binary64.nearest false c 1) (k + exponentValue n.exponent)).map fun x =>
    .float (if n.negative then x.neg else x)

/-- The value of a number. Minus zero is no whole number. -/
def NumberText.value? (n : NumberText) : Option Json :=
  let (whole, dropped) := significand 0 n.whole
  if n.fraction.isSome ∨ n.exponent.isSome ∨ dropped ≠ 0 then n.float?
  else if n.negative = false then some (.int whole)
  else if whole = 0 ∨ 0x8000000000000000 < whole then some (.float (Binary64.nearest true whole 1))
  else some (.int (-(whole : Int)))

end NestedRows.Json
