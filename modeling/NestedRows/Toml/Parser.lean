import NestedRows.Toml.Scalar
/-!
# TOML text

A text is a sequence of lines, each a header, a key with a value, or nothing but a comment. Arrays
and inline tables may spread over lines. What the lines add up to is decided in
`NestedRows.Toml.Value`; here is how they are read.

A key has at most 80 parts, and at most 80 arrays and inline tables may stand inside one another.
Otherwise a reader that can call itself takes the length of the text as a bound on how often it may
do so. Each call is behind at least one more character, so this bound is never reached.
-/

namespace NestedRows.Toml

/-- How many parts a key may have, and how deep the brackets of a value may nest. -/
def nestingLimit : Nat := 80

/-- The parts of a dotted key, at most the given number, and what stands behind it. -/
def key? : Nat → List Char → Option (List String × List Char)
  | 0, _ => none
  | bound + 1, s => do
    let (part, rest) ← keyPart? (s.dropWhile isBlank)
    match rest.dropWhile isBlank with
    | '.' :: rest => do
      let (parts, rest) ← key? bound rest
      return (String.ofList part :: parts, rest)
    | rest => return ([String.ofList part], rest)

/-- The parts of a key in front of the last, and the last. -/
def splitLast : List String → Option (List String × String)
  | [] => none
  | [k] => some ([], k)
  | k :: rest => do
    let (path, last) ← splitLast rest
    return (k :: path, last)

/-- Drops white space, line breaks and comments, as they may stand between brackets. -/
def skipLines : Nat → List Char → Option (List Char)
  | 0, _ => none
  | bound + 1, s =>
    match s.dropWhile isBlank with
    | '#' :: rest =>
      match rest.dropWhile isPlain with
      | [] => some []
      | rest => do skipLines bound (← afterNewline? rest)
    | rest =>
      match afterNewline? rest with
      | some rest => skipLines bound rest
      | none => some rest

mutual

/-- A value whose brackets nest at most `depth` deep, and what stands behind it. -/
def value? : Nat → Nat → List Char → Option (Value × List Char)
  | 0, _, _ => none
  | bound + 1, depth, s =>
    match anyString? s with
    | some text => text.map fun (text, rest) => (.string (String.ofList text), rest)
    | none =>
      match s, depth with
      | '[' :: rest, depth + 1 => do
        let (items, rest) ← items? bound depth rest
        return (.array items, rest)
      | '\x7b' :: rest, depth + 1 => do
        let (entries, rest) ← inlineEntries? bound depth [] rest
        return (.table (entriesToValues entries), rest)
      | s, _ => do
        let (word, rest) := spanWord s
        return (← scalar? word, rest)

/-- The items of an array up to its end. A comma may stand behind the last one. -/
def items? : Nat → Nat → List Char → Option (List Value × List Char)
  | 0, _, _ => none
  | bound + 1, depth, s => do
    match ← skipLines (bound + 1) s with
    | ']' :: rest => return ([], rest)
    | s =>
      let (v, rest) ← value? bound depth s
      match ← skipLines (bound + 1) rest with
      | ']' :: rest => return ([v], rest)
      | ',' :: rest =>
        let (items, rest) ← items? bound depth rest
        return (v :: items, rest)
      | _ => none

/-- The entries of an inline table up to its end, added to those in front. A comma may stand behind
the last one. -/
def inlineEntries? : Nat → Nat → Entries → List Char → Option (Entries × List Char)
  | 0, _, _, _ => none
  | bound + 1, depth, entries, s => do
    match ← skipLines (bound + 1) s with
    | '\x7d' :: rest => return (entries, rest)
    | s =>
      let (parts, rest) ← key? nestingLimit s
      match ← skipLines (bound + 1) rest with
      | '=' :: rest =>
        let (v, rest) ← value? bound depth (← skipLines (bound + 1) rest)
        let (path, k) ← splitLast parts
        let entries ← entries.addDotted path k v
        match ← skipLines (bound + 1) rest with
        | '\x7d' :: rest => return (entries, rest)
        | ',' :: rest => inlineEntries? bound depth entries rest
        | _ => none
      | _ => none

end

/-- A header: whether it adds to an array of tables, the parts of its key, and what stands behind
it. -/
def header? (s : List Char) : Option (Bool × List String × List Char) :=
  match s with
  | '[' :: '[' :: rest => do
    let (parts, rest) ← key? nestingLimit rest
    match rest with
    | ']' :: ']' :: rest => some (true, parts, rest)
    | _ => none
  | '[' :: rest => do
    let (parts, rest) ← key? nestingLimit rest
    match rest with
    | ']' :: rest => some (false, parts, rest)
    | _ => none
  | _ => none

/-- Reads the lines of a text. `current` is the path of the last header. -/
def lines? : Nat → List String → Entries → List Char → Option Entries
  | 0, _, _, _ => none
  | bound + 1, current, entries, s =>
    match s.dropWhile isBlank with
    | [] => some entries
    | '[' :: rest => do
      let (isArray, parts, rest) ← header? ('[' :: rest)
      let (path, k) ← splitLast parts
      let entries ← if isArray then entries.openTables path k else entries.openTable path k
      lines? bound parts entries (← endOfLine? rest)
    | s =>
      match endOfLine? s with
      | some rest => lines? bound current entries rest
      | none => do
        let (parts, rest) ← key? nestingLimit s
        match rest with
        | '=' :: rest =>
          let (v, rest) ← value? s.length nestingLimit (rest.dropWhile isBlank)
          let (path, k) ← splitLast parts
          let entries ←
            Entries.atPath .implied (fun _ entries => entries.addDotted path k v) current .header
              entries
          lines? bound current entries (← endOfLine? rest)
        | _ => none

/-- The table that a text describes. A byte order mark in front is dropped. -/
def parse? (s : String) : Option Value :=
  let cs := match s.toList with
    | '\uFEFF' :: rest => rest
    | cs => cs
  (lines? (cs.length + 1) [] [] cs).map fun entries => .table (entriesToValues entries)

end NestedRows.Toml
