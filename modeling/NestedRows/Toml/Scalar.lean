import NestedRows.Toml.Value
import NestedRows.Toml.Text
/-!
# Numbers, truth values and times of TOML

A value without quotes or brackets is a word. Underscores may stand between the digits of a number;
a decimal number has no leading zero; a time names a day that exists. A number beyond its range is
a number all the same, but it has no value.
-/

namespace NestedRows.Toml

/-- Drops the underscores between the digits of a number; `none` if one stands elsewhere. -/
def dropUnderscores (isDigit : Char → Bool) : List Char → Option (List Char)
  | [] => none
  | [c] => if isDigit c then some [c] else none
  | c :: '_' :: rest => if isDigit c then (dropUnderscores isDigit rest).map (c :: ·) else none
  | c :: rest => if isDigit c then (dropUnderscores isDigit rest).map (c :: ·) else none

/-- The digits of a whole decimal number without a sign. -/
def wholeDigits? (s : List Char) : Option (List Char) := do
  let digits ← dropUnderscores Char.isDigit s
  match digits with
  | '0' :: _ :: _ => none
  | digits => some digits

def digitsInBase? (base : Nat) (s : List Char) : Option Int := do
  let isDigit (c : Char) : Bool := (Json.hexValue? c).any (· < base)
  let digits ← dropUnderscores isDigit s
  return digits.foldl (fun n c => n * base + (Json.hexValue? c).getD 0) 0

def integer? : List Char → Option Int
  | '0' :: 'x' :: rest => digitsInBase? 16 rest
  | '0' :: 'o' :: rest => digitsInBase? 8 rest
  | '0' :: 'b' :: rest => digitsInBase? 2 rest
  | s => do
    let (negative, rest) := Binary64.splitSign s
    let digits ← wholeDigits? rest
    let n : Int := digitsValue digits
    return if negative then -n else n

/-- The digits behind a point and the rest; none without a point. -/
def fractionDigits? : List Char → Option (List Char × List Char)
  | '.' :: rest => do
    let (fraction, rest) := rest.span fun c => c.isDigit || c = '_'
    return (← dropUnderscores Char.isDigit fraction, rest)
  | rest => some ([], rest)

/-- The value of an exponent; none without one. -/
def exponentValue? : List Char → Option Int
  | [] => some 0
  | e :: rest => do
    let (negative, digits) := Binary64.splitSign rest
    let digits ← dropUnderscores Char.isDigit digits
    if e = 'e' ∨ e = 'E' then
      some (if negative then -(digitsValue digits : Int) else digitsValue digits)
    else none

/-- A number with a point or an exponent; an inner `none` if it is beyond the range of doubles. -/
def float? (s : List Char) : Option (Option Binary64) := do
  let (negative, rest) := Binary64.splitSign s
  match rest with
  | ['i', 'n', 'f'] => return some { Binary64.infinity with negative }
  | ['n', 'a', 'n'] => return some Binary64.nan
  | rest =>
    let (whole, rest) := rest.span fun c => c.isDigit || c = '_'
    let whole ← wholeDigits? whole
    let (fraction, rest) ← fractionDigits? rest
    let k ← exponentValue? rest
    let x := Binary64.ofDecimal negative (digitsValue (whole ++ fraction)) (k - fraction.length)
    return if x.isFinite then some x else none

/-- Whether a whole number is in the range of signed or of unsigned integers of 128 bits. -/
def isInRange (n : Int) : Bool :=
  -0x80000000000000000000000000000000 ≤ n && n ≤ 0xFFFFFFFFFFFFFFFFFFFFFFFFFFFFFFFF

def twoDigits? (a b : Char) : Option Nat :=
  if a.isDigit && b.isDigit then some (digitsValue [a, b]) else none

def daysOfMonth (year month : Nat) : Nat :=
  if month = 2 then
    if year % 4 = 0 ∧ (year % 100 ≠ 0 ∨ year % 400 = 0) then 29 else 28
  else if month = 4 ∨ month = 6 ∨ month = 9 ∨ month = 11 then 30 else 31

def afterDate? : List Char → Option (List Char)
  | a :: b :: c :: d :: '-' :: e :: f :: '-' :: g :: h :: rest => do
    let year := (← twoDigits? a b) * 100 + (← twoDigits? c d)
    let month ← twoDigits? e f
    let day ← twoDigits? g h
    if 1 ≤ month ∧ month ≤ 12 ∧ 1 ≤ day ∧ day ≤ daysOfMonth year month then some rest else none
  | _ => none

/-- What stands behind the seconds of a time, which may have a fraction. -/
def afterSeconds? : List Char → Option (List Char)
  | a :: b :: rest => do
    let second ← twoDigits? a b
    if 60 < second then none
    else
      match rest with
      | '.' :: digits =>
        match digits.span Char.isDigit with
        | ([], _) => none
        | (_, rest) => some rest
      | rest => some rest
  | _ => none

/-- What stands behind a time of the day. It may have no seconds. -/
def afterTime? : List Char → Option (List Char)
  | a :: b :: ':' :: c :: d :: rest => do
    let hour ← twoDigits? a b
    let minute ← twoDigits? c d
    if 23 < hour ∨ 59 < minute then none
    else
      match rest with
      | ':' :: rest => afterSeconds? rest
      | rest => some rest
  | _ => none

/-- Whether a text is an offset from universal time. -/
def isOffset : List Char → Bool
  | ['Z'] | ['z'] => true
  | [sign, a, b, ':', c, d] =>
    (sign = '+' || sign = '-') && (twoDigits? a b).any (· ≤ 23) && (twoDigits? c d).any (· ≤ 59)
  | _ => false

/-- Whether a text is a date, a time of the day, or both with or without an offset. -/
def isTime (s : List Char) : Bool :=
  match afterDate? s with
  | some [] => true
  | some (sep :: rest) =>
    (sep = 'T' || sep = 't' || sep = ' ') && (afterTime? rest).any fun r => r.isEmpty || isOffset r
  | none => afterTime? s == some []

def scalar? (word : List Char) : Option Value :=
  match word with
  | ['t', 'r', 'u', 'e'] => some (.bool true)
  | ['f', 'a', 'l', 's', 'e'] => some (.bool false)
  | word =>
    match integer? word with
    | some n => some (if isInRange n then .integer n else .outOfRange)
    | none =>
      match float? word with
      | some (some x) => some (.float x)
      | some none => some .outOfRange
      | none => if isTime word then some (.time (String.ofList word)) else none

/-- Whether a character may stand in a word. -/
def isWordPart (c : Char) : Bool :=
  c.isAlphanum || c = '_' || c = '-' || c = '+' || c = '.' || c = ':'

/-- Splits off the word at the front. One blank may stand between a date and a time. -/
def spanWord (s : List Char) : List Char × List Char :=
  let (word, rest) := s.span isWordPart
  match afterDate? word, rest with
  | some [], ' ' :: d :: more =>
    if d.isDigit then
      let (time, rest) := (d :: more).span isWordPart
      (word ++ ' ' :: time, rest)
    else (word, rest)
  | _, _ => (word, rest)

end NestedRows.Toml
