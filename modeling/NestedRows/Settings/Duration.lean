import NestedRows.Decimal.Notation
import NestedRows.Text.Blank
/-!
# Durations

A duration is written as a whole number with a unit: `250ms`, `5s`, `1m` or `2h`. It is kept in
milliseconds.
-/

namespace NestedRows.Duration

def unit? : List Char → Option Nat
  | ['m', 's'] => some 1
  | ['s'] => some 1000
  | ['m'] => some 60000
  | ['h'] => some 3600000
  | _ => none

/-- The milliseconds of a duration, or the text without white space around it. The number fits into
64 bits. -/
def parse (s : String) : Except String Nat :=
  let trimmed := Text.trim s.toList
  let (digits, unit) := trimmed.span Char.isDigit
  match unit? unit with
  | some factor =>
    if digits.isEmpty ∨ 0xFFFFFFFFFFFFFFFF < digitsValue digits then .error (String.ofList trimmed)
    else .ok (digitsValue digits * factor)
  | none => .error (String.ofList trimmed)

end NestedRows.Duration
