import NestedRows.Decimal.Notation
import NestedRows.Text.Utf8
/-!
# Tokens of JSON text

A document is cut into brackets, separators, words, numbers and strings in one walk over its
characters. A string is kept as it is written: an escaped code unit is only joined with its partner,
and a byte that is no character only refused, when somebody asks for the string's text
(`text?`). So what nobody reads may hold either.
-/

namespace NestedRows.Json

/-- A piece of a string as it is written. -/
inductive StringPart where
  /-- A character, plain or behind a backslash. -/
  | char (c : Char)
  /-- The code unit of an escape of four digits. -/
  | unit (code : Nat)
  /-- A byte that is no character. -/
  | stray
  deriving DecidableEq

/-- A number as it is written. -/
structure NumberText where
  negative : Bool
  whole : List Char
  /-- The digits behind the point, if there is a point. -/
  fraction : Option (List Char)
  /-- The sign (`true` for minus) and the digits of the exponent. -/
  exponent : Option (Bool × List Char)
  deriving DecidableEq

/-- A token. -/
inductive Token where
  | openArray
  | closeArray
  | openObject
  | closeObject
  | colon
  | comma
  | null
  | bool (b : Bool)
  | number (n : NumberText)
  | string (parts : List StringPart)
  deriving DecidableEq

/-- The text of a string: a pair of surrogate units is one character, a single one is none. -/
def text? : List StringPart → Option (List Char)
  | [] => some []
  | .char c :: rest => (text? rest).map (c :: ·)
  | .stray :: _ => none
  | .unit u :: rest =>
    if u < 0xD800 ∨ 0xDFFF < u then (text? rest).map (Char.ofNat u :: ·)
    else
      match rest with
      | .unit v :: rest =>
        if u < 0xDC00 ∧ 0xDC00 ≤ v ∧ v ≤ 0xDFFF then
          (text? rest).map (Char.ofNat (0x10000 + (u - 0xD800) * 0x400 + (v - 0xDC00)) :: ·)
        else none
      | _ => none

def isSpace (c : Char) : Bool := c = ' ' || c = '\t' || c = '\n' || c = '\r'

def hexValue? (c : Char) : Option Nat :=
  if '0' ≤ c ∧ c ≤ '9' then some (c.toNat - '0'.toNat)
  else if 'a' ≤ c ∧ c ≤ 'f' then some (c.toNat - 'a'.toNat + 10)
  else if 'A' ≤ c ∧ c ≤ 'F' then some (c.toNat - 'A'.toNat + 10)
  else none

/-- The character behind a backslash, other than the `u` of a code unit. -/
def simpleEscape? : Char → Option Char
  | '"' => some '"'
  | '\\' => some '\\'
  | '/' => some '/'
  | 'b' => some '\x08'
  | 'f' => some '\x0c'
  | 'n' => some '\n'
  | 'r' => some '\r'
  | 't' => some '\t'
  | _ => none

def spanDigits (cs : List Char) : List Char × List Char := cs.span Char.isDigit

/-- The exponent at the end of a number. -/
def exponentPart? : List Char → Option (Option (Bool × List Char))
  | [] => some none
  | e :: rest =>
    if e = 'e' ∨ e = 'E' then
      let (negative, digits) := match rest with
        | '-' :: ds => (true, ds)
        | '+' :: ds => (false, ds)
        | ds => (false, ds)
      if digits.isEmpty ∨ ¬ digits.all Char.isDigit then none else some (some (negative, digits))
    else none

/-- Reads a number that fills the whole text. The whole part has no leading zero, and there is a
digit on both sides of a point. -/
def numberText? (cs : List Char) : Option NumberText :=
  let (negative, cs) := match cs with
    | '-' :: rest => (true, rest)
    | cs => (false, cs)
  let (whole, rest) := spanDigits cs
  if whole.isEmpty ∨ (1 < whole.length ∧ whole.head? = some '0') then none
  else
    match rest with
    | '.' :: rest =>
      let (fraction, rest) := spanDigits rest
      if fraction.isEmpty then none
      else (exponentPart? rest).map fun e => ⟨negative, whole, some fraction, e⟩
    | rest => (exponentPart? rest).map fun e => ⟨negative, whole, none, e⟩

/-- Where the walk over the characters stands. Pieces are collected last first. -/
inductive Lexing where
  /-- Between tokens. -/
  | between
  /-- In a string. -/
  | string (done : List StringPart)
  /-- Behind a backslash. -/
  | escape (done : List StringPart)
  /-- In a code unit of which `missing + 1` digits are still to come. -/
  | unit (done : List StringPart) (missing code : Nat)
  /-- In a word or a number. -/
  | word (done : List Char)

/-- The token that a word or number is. -/
def wordToken? (word : List Char) : Option Token :=
  match word with
  | ['n', 'u', 'l', 'l'] => some .null
  | ['t', 'r', 'u', 'e'] => some (.bool true)
  | ['f', 'a', 'l', 's', 'e'] => some (.bool false)
  | word => (numberText? word).map .number

/-- Whether `c` can stand in a word or a number. -/
def isWordPart (c : Char) : Bool :=
  c.isAlphanum || c = '-' || c = '+' || c = '.'

def punctuation? : Char → Option Token
  | '[' => some .openArray
  | ']' => some .closeArray
  | '\x7b' => some .openObject
  | '\x7d' => some .closeObject
  | ':' => some .colon
  | ',' => some .comma
  | _ => none

/-- The state behind a character that stands between tokens, and the token that it is. -/
def startToken? (c : Char) : Option (Lexing × List Token) :=
  if isSpace c then some (.between, [])
  else if c = '"' then some (.string [], [])
  else if isWordPart c then some (.word [c], [])
  else (punctuation? c).map fun t => (.between, [t])

/-- One character of the walk: the next state and the tokens that end here. -/
def lexStep : Lexing → Option Char → Option (Lexing × List Token)
  | .between, some c => startToken? c
  | .between, none => none
  | .word done, some c =>
    if isWordPart c then some (.word (c :: done), [])
    else do
      let token ← wordToken? done.reverse
      let (state, tokens) ← startToken? c
      return (state, token :: tokens)
  | .word _, none => none
  | .string done, none => some (.string (.stray :: done), [])
  | .string done, some c =>
    if c = '"' then some (.between, [.string done.reverse])
    else if c = '\\' then some (.escape done, [])
    else if c.toNat < 0x20 then none
    else some (.string (.char c :: done), [])
  | .escape done, some c =>
    if c = 'u' then some (.unit done 3 0, [])
    else (simpleEscape? c).map fun c => (.string (.char c :: done), [])
  | .escape _, none => none
  | .unit done missing code, some c => do
    let digit ← hexValue? c
    match missing with
    | 0 => return (.string (.unit (code * 16 + digit) :: done), [])
    | missing + 1 => return (.unit done missing (code * 16 + digit), [])
  | .unit _ _ _, none => none

/-- The tokens from a state of the walk on. A string that is not closed is an error. -/
def tokensFrom : Lexing → Text.Units → Option (List Token)
  | .between, [] => some []
  | .word done, [] => (wordToken? done.reverse).map fun t => [t]
  | _, [] => none
  | state, u :: rest => do
    let (state, tokens) ← lexStep state u
    let more ← tokensFrom state rest
    return tokens ++ more

def tokens? (source : Text.Units) : Option (List Token) := tokensFrom .between source

end NestedRows.Json
