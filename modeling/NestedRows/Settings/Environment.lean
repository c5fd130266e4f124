import NestedRows.Text.Word
/-!
# Environment variables in texts

A text may refer to a variable as `${NAME}` or as `$NAME`, where the name goes as far as letters,
digits and underscores do. Anything up to the closing brace is the name between braces, and a brace
that is not closed takes the rest of the text. A dollar sign with no name behind it stands for
itself, and what a variable holds is not looked at again.
-/

namespace NestedRows

/-- The variables of an environment. -/
structure Environment where
  entries : List (String × String)

namespace Environment

/-- The value of a variable: what stands behind its name and an equals sign in the line `NAME=VALUE`
of a variable. So a name with equals signs of its own finds the rest of a value. -/
def get? (env : Environment) (name : List Char) : Option (List Char) :=
  if name.isEmpty || name.contains '\x00' then none
  else env.entries.findSome? fun (n, value) =>
    (name ++ ['=']).isPrefixOf? (n.toList ++ '=' :: value.toList)

/-- A piece of a text with references. -/
inductive Piece where
  | char (c : Char)
  | reference (name : List Char)
  deriving DecidableEq

/-- Whether the name of a variable goes on with `c`. -/
def isNamePart (c : Char) : Bool := Text.isAlphanumeric c || c = '_'

/-- Where the walk over a text stands. Names are collected last character first. -/
inductive Scanning where
  /-- Outside of a reference. -/
  | plain
  /-- Right behind a dollar sign. -/
  | dollar
  /-- In a name without braces. -/
  | bare (name : List Char)
  /-- In a name between braces. -/
  | braced (name : List Char)

/-- The pieces that `c` ends outside of a reference, and the next state. -/
def scanPlain (c : Char) : Scanning × List Piece :=
  if c = '$' then (.dollar, []) else (.plain, [.char c])

/-- One character of the walk: the next state, and the pieces that end here. -/
def scanStep : Scanning → Char → Scanning × List Piece
  | .plain, c => scanPlain c
  | .dollar, c =>
    if c = '\x7b' then (.braced [], [])
    else if isNamePart c then (.bare [c], [])
    else
      let (state, pieces) := scanPlain c
      (state, .char '$' :: pieces)
  | .bare name, c =>
    if isNamePart c then (.bare (c :: name), [])
    else
      let (state, pieces) := scanPlain c
      (state, .reference name.reverse :: pieces)
  | .braced name, c =>
    if c = '\x7d' then (.plain, [.reference name.reverse]) else (.braced (c :: name), [])

/-- The pieces from a state of the walk on. -/
def piecesFrom : Scanning → List Char → List Piece
  | .plain, [] => []
  | .dollar, [] => [.char '$']
  | .bare name, [] => [.reference name.reverse]
  | .braced name, [] => [.reference name.reverse]
  | state, c :: rest =>
    let (state, pieces) := scanStep state c
    pieces ++ piecesFrom state rest

/-- What a piece stands for, or the name of a variable that is missing. -/
def Piece.expand (env : Environment) : Piece → Except String (List Char)
  | char c => .ok [c]
  | reference name =>
    match env.get? name with
    | some value => .ok value
    | none => .error (String.ofList name)

/-- The text with all references replaced, or the name of the first variable that is missing. -/
def expand (env : Environment) (s : String) : Except String String := do
  let parts ← (piecesFrom .plain s.toList).mapM (Piece.expand env)
  return String.ofList parts.flatten

end Environment

end NestedRows
