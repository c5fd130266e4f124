import NestedRows.Text.Blank
import NestedRows.Text.Identifier
/-!
# Tokens of selection text

Names, braces and commas. White space and comments, which run from `#` to the end of the line, only
separate them.
-/

namespace NestedRows.Selection

/-- A token of selection text. -/
inductive Token where
  | openBlock
  | closeBlock
  | comma
  | name (s : List Char)
  deriving DecidableEq

/-- Where the walk over the characters stands. -/
inductive Lexing where
  /-- Between tokens. -/
  | between
  /-- In a comment. -/
  | comment
  /-- In a name; its characters so far, last first. -/
  | name (done : List Char)

/-- The state behind a character that stands between tokens, and the token that it is. -/
def startToken? (c : Char) : Option (Lexing × List Token) :=
  if Text.isBlank c then some (.between, [])
  else if c = '#' then some (.comment, [])
  else if c = '\x7b' then some (.between, [.openBlock])
  else if c = '\x7d' then some (.between, [.closeBlock])
  else if c = ',' then some (.between, [.comma])
  else if Text.isIdentifierStart c then some (.name [c], [])
  else none

/-- One character of the walk: the next state and the tokens that end here. -/
def lexStep : Lexing → Char → Option (Lexing × List Token)
  | .between, c => startToken? c
  | .comment, c => some (if c = '\n' then .between else .comment, [])
  | .name done, c =>
    if Text.isIdentifierPart c then some (.name (c :: done), [])
    else (startToken? c).map fun (state, tokens) => (state, .name done.reverse :: tokens)

/-- The tokens from a state of the walk on. -/
def tokensFrom : Lexing → List Char → Option (List Token)
  | .between, [] => some []
  | .comment, [] => some []
  | .name done, [] => some [.name done.reverse]
  | state, c :: rest => do
    let (state, tokens) ← lexStep state c
    let more ← tokensFrom state rest
    return tokens ++ more

def tokens? (s : String) : Option (List Token) := tokensFrom .between s.toList

end NestedRows.Selection
