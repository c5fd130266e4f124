import NestedRows.Json.Token
/-!
# Strings of TOML

The four forms of a string: between single or triple quotes, which may be double (with escapes) or
single (without). Each reader starts behind the opening quotes and gives the text and what stands
behind the closing ones. Line breaks in a string of several lines are kept as they are written.
-/

namespace NestedRows.Toml

/-- A text that was read, and the rest of the input. -/
abbrev TextAndRest := List Char × List Char

/-- Whether a character may stand in a comment or a string. -/
def isPlain (c : Char) : Bool := c = '\t' || (0x20 ≤ c.toNat && c.toNat ≠ 0x7F)

/-- Whether a character is a blank inside a line. -/
def isBlank (c : Char) : Bool := c = ' ' || c = '\t'

/-- What stands behind the line break at the front. -/
def afterNewline? : List Char → Option (List Char)
  | '\n' :: rest => some rest
  | '\r' :: '\n' :: rest => some rest
  | _ => none

def hexNumber? (digits : List Char) : Option Nat :=
  digits.foldlM (fun n c => (Json.hexValue? c).map (n * 16 + ·)) 0

/-- The character with the given code, if there is one. -/
def charOfCode? (n : Nat) : Option Char := if n.isValidChar then some (Char.ofNat n) else none

/-- The character of an escape of one letter. -/
def simpleEscape? : Char → Option Char
  | 'b' => some '\x08'
  | 't' => some '\t'
  | 'n' => some '\n'
  | 'f' => some '\x0c'
  | 'r' => some '\r'
  | 'e' => some '\x1b'
  | '"' => some '"'
  | '\\' => some '\\'
  | _ => none

/-- Puts a character in front of a text. -/
def push (c : Char) : TextAndRest → TextAndRest
  | (text, rest) => (c :: text, rest)

def basicString : List Char → Option TextAndRest
  | [] => none
  | '"' :: rest => some ([], rest)
  | '\\' :: 'x' :: a :: b :: rest => do
    let ch ← charOfCode? (← hexNumber? [a, b])
    push ch <$> basicString rest
  | '\\' :: 'u' :: a :: b :: c :: d :: rest => do
    let ch ← charOfCode? (← hexNumber? [a, b, c, d])
    push ch <$> basicString rest
  | '\\' :: 'U' :: a :: b :: c :: d :: e :: f :: g :: h :: rest => do
    let ch ← charOfCode? (← hexNumber? [a, b, c, d, e, f, g, h])
    push ch <$> basicString rest
  | '\\' :: e :: rest => do
    let ch ← simpleEscape? e
    push ch <$> basicString rest
  | c :: rest => if isPlain c && c ≠ '\\' then push c <$> basicString rest else none

def literalString : List Char → Option TextAndRest
  | [] => none
  | '\'' :: rest => some ([], rest)
  | c :: rest => if isPlain c then push c <$> literalString rest else none

/-- A string of several lines with escapes. Up to two quotes may stand in front of the closing ones.
A backslash at the end of a line drops all white space up to the next character; `dropping` says
that this is going on. -/
def multilineBasic (dropping : Bool) : List Char → Option TextAndRest
  | [] => none
  | '"' :: '"' :: '"' :: '"' :: '"' :: rest => some (['"', '"'], rest)
  | '"' :: '"' :: '"' :: '"' :: rest => some (['"'], rest)
  | '"' :: '"' :: '"' :: rest => some ([], rest)
  | '\\' :: 'x' :: a :: b :: rest => do
    let ch ← charOfCode? (← hexNumber? [a, b])
    push ch <$> multilineBasic false rest
  | '\\' :: 'u' :: a :: b :: c :: d :: rest => do
    let ch ← charOfCode? (← hexNumber? [a, b, c, d])
    push ch <$> multilineBasic false rest
  | '\\' :: 'U' :: a :: b :: c :: d :: e :: f :: g :: h :: rest => do
    let ch ← charOfCode? (← hexNumber? [a, b, c, d, e, f, g, h])
    push ch <$> multilineBasic false rest
  | '\\' :: e :: rest =>
    match simpleEscape? e with
    | some ch => push ch <$> multilineBasic false rest
    | none =>
      if (afterNewline? ((e :: rest).dropWhile isBlank)).isSome then
        if e = '\r' then
          match rest with
          | _ :: rest => multilineBasic true rest
          | [] => none
        else multilineBasic true rest
      else none
  | '\r' :: '\n' :: rest =>
    if dropping then multilineBasic true rest
    else push '\r' <$> push '\n' <$> multilineBasic false rest
  | c :: rest =>
    if dropping && (isBlank c || c = '\n') then multilineBasic true rest
    else if c = '\n' then push '\n' <$> multilineBasic false rest
    else if isPlain c && c ≠ '\\' then push c <$> multilineBasic false rest
    else none

def multilineLiteral : List Char → Option TextAndRest
  | [] => none
  | '\'' :: '\'' :: '\'' :: '\'' :: '\'' :: rest => some (['\'', '\''], rest)
  | '\'' :: '\'' :: '\'' :: '\'' :: rest => some (['\''], rest)
  | '\'' :: '\'' :: '\'' :: rest => some ([], rest)
  | '\r' :: '\n' :: rest => push '\r' <$> push '\n' <$> multilineLiteral rest
  | c :: rest => if isPlain c || c = '\n' then push c <$> multilineLiteral rest else none

/-- Drops the line break right behind opening triple quotes. -/
def dropFirstNewline (s : List Char) : List Char := (afterNewline? s).getD s

/-- A string of any form; `none` if there is none at the front, and an inner `none` if it is
wrong. -/
def anyString? : List Char → Option (Option TextAndRest)
  | '"' :: '"' :: '"' :: rest => some (multilineBasic false (dropFirstNewline rest))
  | '\'' :: '\'' :: '\'' :: rest => some (multilineLiteral (dropFirstNewline rest))
  | '"' :: rest => some (basicString rest)
  | '\'' :: rest => some (literalString rest)
  | _ => none

/-- Whether a character may stand in a bare key. -/
def isBareKeyPart (c : Char) : Bool := c.isAlphanum || c = '_' || c = '-'

/-- One part of a key: bare or a string of one line. -/
def keyPart? : List Char → Option TextAndRest
  | '"' :: rest => basicString rest
  | '\'' :: rest => literalString rest
  | s =>
    match s.span isBareKeyPart with
    | ([], _) => none
    | parts => some parts

/-- Drops blanks and one comment in front of a line break or the end; `none` if anything else
stands there or the comment holds a control character. -/
def endOfLine? (s : List Char) : Option (List Char) :=
  match s.dropWhile isBlank with
  | [] => some []
  | '#' :: rest =>
    match rest.dropWhile isPlain with
    | [] => some []
    | rest => afterNewline? rest
  | rest => afterNewline? rest

end NestedRows.Toml
