import NestedRows.Selection.Basic
import NestedRows.Selection.Token
/-!
# Selection text

A text is one field between braces:

    text  = "{" field "}"
    field = name [block]
    block = "{" field [","] { field [","] } "}"

It is read in one walk over the tokens, with a stack of the blocks that are open.
-/

namespace NestedRows.Selection

/-- An open block: the field that it belongs to, and the selections in it so far, last first. -/
structure Block where
  owner : List Char
  done : List Selection

/-- What may follow. -/
inductive Expecting where
  /-- The brace that opens the text. -/
  | opening
  /-- A name, right behind an opening brace. -/
  | firstName
  /-- The block of the field just named, or what follows a field. -/
  | blockOf (name : List Char)
  /-- What follows a field: a comma, another field or the end of the block. -/
  | afterField (field : Selection)
  /-- Another field or the end of the block. -/
  | afterComma
  /-- Nothing: the text is complete. -/
  | nothing (selection : Selection)

/-- The open blocks, innermost first, and what may follow. -/
structure Reading where
  blocks : List Block
  expecting : Expecting

namespace Reading

/-- Reads what follows a field. The outermost braces hold a single field. -/
def afterField (blocks : List Block) (field : Selection) (token : Token) : Option Reading :=
  match blocks, token with
  | [], .closeBlock => some ⟨[], .nothing field⟩
  | ⟨owner, done⟩ :: outer, .closeBlock =>
    some ⟨outer, .afterField (.node (String.ofList owner) (field :: done).reverse)⟩
  | ⟨owner, done⟩ :: outer, .comma => some ⟨⟨owner, field :: done⟩ :: outer, .afterComma⟩
  | ⟨owner, done⟩ :: outer, .name s => some ⟨⟨owner, field :: done⟩ :: outer, .blockOf s⟩
  | _, _ => none

def step (r : Reading) (token : Token) : Option Reading :=
  match r.expecting, token with
  | .opening, .openBlock => some ⟨r.blocks, .firstName⟩
  | .firstName, .name s => some ⟨r.blocks, .blockOf s⟩
  | .blockOf s, .openBlock => some ⟨⟨s, []⟩ :: r.blocks, .firstName⟩
  | .blockOf s, token => afterField r.blocks (.node (String.ofList s) []) token
  | .afterField field, token => afterField r.blocks field token
  | .afterComma, .name s => some ⟨r.blocks, .blockOf s⟩
  | .afterComma, .closeBlock =>
    match r.blocks with
    | ⟨owner, done⟩ :: outer =>
      some ⟨outer, .afterField (.node (String.ofList owner) done.reverse)⟩
    | [] => none
  | _, _ => none

def run : Reading → List Token → Option Reading
  | r, [] => some r
  | r, token :: rest => do
    let r ← r.step token
    run r rest

end Reading

def ofTokens? (tokens : List Token) : Option Selection := do
  let r ← Reading.run ⟨[], .opening⟩ tokens
  match r.expecting with
  | .nothing selection => some selection
  | _ => none

def parse? (s : String) : Option Selection := do
  ofTokens? (← tokens? s)

end NestedRows.Selection
