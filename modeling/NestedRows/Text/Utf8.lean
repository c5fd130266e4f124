/-!
# Bytes as characters

A document can arrive as bytes that are not all UTF-8. `Text.Units` keeps what each place of such a
document holds: a character, or `none` for a byte with which no character starts. A text is the
case without strays.
-/

namespace NestedRows.Text

/-- The characters of a byte sequence, with `none` for each byte that starts no character. -/
abbrev Units := List (Option Char)

def unitsOf (s : String) : Units := s.toList.map some

def isTail (b : UInt8) : Bool := 0x80 ≤ b && b ≤ 0xBF

/-- The low six bits of a continuation byte. -/
def tailBits (b : UInt8) : Nat := b.toNat % 64

/-- The character at the front and the number of its continuation bytes. Overlong forms, surrogates
and numbers beyond the last code point are no characters. -/
def firstChar? : List UInt8 → Option (Char × Nat)
  | a :: rest =>
    if a < 0x80 then some (Char.ofNat a.toNat, 0)
    else if 0xC2 ≤ a && a ≤ 0xDF then
      match rest with
      | b :: _ =>
        if isTail b then some (Char.ofNat ((a.toNat - 0xC0) * 64 + tailBits b), 1) else none
      | _ => none
    else if 0xE0 ≤ a && a ≤ 0xEF then
      match rest with
      | b :: c :: _ =>
        let low : UInt8 := if a = 0xE0 then 0xA0 else 0x80
        let high : UInt8 := if a = 0xED then 0x9F else 0xBF
        if low ≤ b && b ≤ high && isTail c then
          some (Char.ofNat ((a.toNat - 0xE0) * 4096 + tailBits b * 64 + tailBits c), 2)
        else none
      | _ => none
    else if 0xF0 ≤ a && a ≤ 0xF4 then
      match rest with
      | b :: c :: d :: _ =>
        let low : UInt8 := if a = 0xF0 then 0x90 else 0x80
        let high : UInt8 := if a = 0xF4 then 0x8F else 0xBF
        if low ≤ b && b ≤ high && isTail c && isTail d then
          some (Char.ofNat ((a.toNat - 0xF0) * 262144 + tailBits b * 4096 + tailBits c * 64
            + tailBits d), 3)
        else none
      | _ => none
    else none
  | [] => none

/-- The units of a byte sequence of which the first `skip` bytes belong to a character that is
already out. -/
def decodeAfter : Nat → List UInt8 → Units
  | _, [] => []
  | skip + 1, _ :: rest => decodeAfter skip rest
  | 0, a :: rest =>
    match firstChar? (a :: rest) with
    | some (c, tails) => some c :: decodeAfter tails rest
    | none => none :: decodeAfter 0 rest

def decodeUtf8 (bytes : List UInt8) : Units := decodeAfter 0 bytes

end NestedRows.Text
