import NestedRows.Json.Basic
/-!
# JSON text

A value is written without any white space. In a string only quotation marks, backslashes and the
control characters are escaped. The text names a value: two values with the same text are the same
key of a group, and the digest of a schema is taken of its text.
-/

namespace NestedRows.Json

def hexDigit (n : Nat) : Char := Nat.digitChar n

def escaped (c : Char) : List Char :=
  if c = '"' then ['\\', '"']
  else if c = '\\' then ['\\', '\\']
  else if c = '\x08' then ['\\', 'b']
  else if c = '\t' then ['\\', 't']
  else if c = '\n' then ['\\', 'n']
  else if c = '\x0c' then ['\\', 'f']
  else if c = '\r' then ['\\', 'r']
  else if c.toNat < 0x20 then
    ['\\', 'u', '0', '0', hexDigit (c.toNat / 16), hexDigit (c.toNat % 16)]
  else [c]

def renderString (s : String) : List Char := '"' :: s.toList.flatMap escaped ++ ['"']

mutual

def renderChars : Json → List Char
  | null => ['n', 'u', 'l', 'l']
  | bool true => ['t', 'r', 'u', 'e']
  | bool false => ['f', 'a', 'l', 's', 'e']
  | int n => intDigits n
  | float x => if x.isFinite then (x.render .json).toList else ['n', 'u', 'l', 'l']
  | str s => renderString s
  | arr [] => ['[', ']']
  | arr (item :: items) => '[' :: renderChars item ++ renderItems items ++ [']']
  | obj [] => ['\x7b', '\x7d']
  | obj ((name, value) :: fields) =>
    '\x7b' :: renderString name ++ ':' :: renderChars value ++ renderFields fields ++ ['\x7d']

/-- The items behind the first, each after a comma. -/
def renderItems : List Json → List Char
  | [] => []
  | item :: items => ',' :: renderChars item ++ renderItems items

/-- The fields behind the first, each after a comma. -/
def renderFields : List (String × Json) → List Char
  | [] => []
  | (name, value) :: fields =>
    ',' :: renderString name ++ ':' :: renderChars value ++ renderFields fields

end

def render (v : Json) : String := String.ofList v.renderChars

end NestedRows.Json
