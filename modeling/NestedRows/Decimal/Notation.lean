import NestedRows.Decimal.Shortest
/-!
# Writing and reading decimals

The text of a number: the shortest digits that read back, with a point in the middle of them where
the number is neither very large nor very small, and with an exponent otherwise. Two texts of this
library differ only in the sign that a large exponent carries (`FloatNotation`).
-/

namespace NestedRows

/-- How a number with an exponent is written. -/
structure FloatNotation where
  /-- Whether a plus sign stands before an exponent that is not negative. -/
  plusSign : Bool

/-- Numbers in statements: `1e16`. -/
def FloatNotation.sql : FloatNotation := ⟨false⟩

/-- Numbers in JSON text: `1e+16`. -/
def FloatNotation.json : FloatNotation := ⟨true⟩

namespace Binary64

def digitsOf (n : Nat) : List Char := Nat.toDigits 10 n

/-- `zeros n` is `n` times the digit zero. -/
def zeros (n : Nat) : List Char := List.replicate n '0'

/-- The text of `c * 10 ^ k` with a point. There is a digit on both sides of it. -/
def plain (digits : List Char) (k : Int) : List Char :=
  let whole := digits.length + k
  if 0 ≤ k then digits ++ zeros k.toNat ++ ['.', '0']
  else if 0 < whole then digits.take whole.toNat ++ '.' :: digits.drop whole.toNat
  else '0' :: '.' :: zeros (-whole).toNat ++ digits

/-- The text of `c * 10 ^ k` with an exponent: one digit, a point if more follow, the exponent. -/
def scientific (f : FloatNotation) (digits : List Char) (k : Int) : List Char :=
  let e := digits.length + k - 1
  let head := match digits with
    | d :: d' :: rest => d :: '.' :: d' :: rest
    | ds => ds
  let sign := if e < 0 then ['-'] else if f.plusSign then ['+'] else []
  head ++ 'e' :: sign ++ digitsOf e.natAbs

/-- The text of a finite number. A point is written where the first digit stands for `10 ^ -5` to
`10 ^ 15`. -/
def render (f : FloatNotation) (x : Binary64) : String :=
  let magnitude :=
    if x.mantissa = 0 then ['0', '.', '0']
    else
      let (c, k) := x.shortest
      let digits := digitsOf c
      let e := digits.length + k - 1
      if -5 ≤ e ∧ e ≤ 15 then plain digits k else scientific f digits k
  String.ofList (if x.negative then '-' :: magnitude else magnitude)

/-- The number nearest to `c * 10 ^ k`. A power of ten far outside the format's range gives the
same as one just outside it. -/
def ofDecimal (negative : Bool) (c : Nat) (k : Int) : Binary64 :=
  let digits : Int := (digitsOf c).length
  if c = 0 ∨ digits + k < -400 then { zero with negative }
  else if 400 < digits + k then { infinity with negative }
  else nearest negative (c * Nat.pow 10 k.toNat) (Nat.pow 10 (-k).toNat)

end Binary64

def digitsValue (ds : List Char) : Nat := ds.foldl (fun n d => n * 10 + (d.toNat - '0'.toNat)) 0

namespace Binary64

/-- Splits off a sign; `true` stands for minus. -/
def splitSign : List Char → Bool × List Char
  | '-' :: rest => (true, rest)
  | '+' :: rest => (false, rest)
  | s => (false, s)

/-- The exponent behind the digits of a decimal: none, or a sign and at least one digit. -/
def exponentOf? : List Char → Option Int
  | [] => some 0
  | e :: rest =>
    let (negative, digits) := splitSign rest
    if (e = 'e' ∨ e = 'E') ∧ ¬ digits.isEmpty ∧ digits.all Char.isDigit then
      some (if negative then -(digitsValue digits : Int) else digitsValue digits)
    else none

/-- The number nearest to the decimal that a text writes down; `inf` and `nan` are written in
letters of any case. -/
def ofText? (s : String) : Option Binary64 :=
  let (negative, rest) := splitSign s.toList
  match String.ofList (rest.map Char.toLower) with
  | "inf" | "infinity" => some { infinity with negative }
  | "nan" => some nan
  | _ =>
    let (whole, rest) := rest.span Char.isDigit
    let (fraction, rest) := match rest with
      | '.' :: rest => rest.span Char.isDigit
      | rest => ([], rest)
    if whole.isEmpty ∧ fraction.isEmpty then none
    else (exponentOf? rest).map fun k =>
      ofDecimal negative (digitsValue (whole ++ fraction)) (k - fraction.length)

end Binary64

end NestedRows
