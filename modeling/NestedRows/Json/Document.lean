import NestedRows.Json.Token
/-!
# JSON documents

A document is the tree that a text writes down, before anything is made of its numbers and strings.
The tree is built in one walk over the tokens with a stack of open brackets, so its depth is not
limited here.
-/

namespace NestedRows.Json

/-- A value as it is written. -/
inductive Document where
  | null
  | bool (b : Bool)
  | number (n : NumberText)
  | string (parts : List StringPart)
  | array (items : List Document)
  | object (fields : List (List StringPart × Document))

namespace Document

instance : Inhabited Document := ⟨null⟩

/-- An open bracket with what stands in it so far, last first. -/
inductive Frame where
  | array (items : List Document)
  | object (fields : List (List StringPart × Document)) (key : List StringPart)

/-- What may follow. -/
inductive Expecting where
  /-- A value. -/
  | value
  /-- A value or the end of the array that was just opened. -/
  | firstItem
  /-- A field or the end of the object that was just opened. -/
  | firstField
  /-- The name of a field; the fields so far stand in front. -/
  | name (fields : List (List StringPart × Document))
  /-- The colon behind a name. -/
  | colon (fields : List (List StringPart × Document)) (key : List StringPart)
  /-- A comma or a closing bracket. -/
  | separator
  /-- Nothing: the document is complete. -/
  | nothing (document : Document)

/-- The open brackets, innermost first, and what may follow. -/
structure Reading where
  stack : List Frame
  expecting : Expecting

def Reading.complete (v : Document) : List Frame → Reading
  | [] => ⟨[], .nothing v⟩
  | .array items :: stack => ⟨.array (v :: items) :: stack, .separator⟩
  | .object fields key :: stack => ⟨.object ((key, v) :: fields) [] :: stack, .separator⟩

/-- Reads a token where a value may stand. -/
def Reading.value (stack : List Frame) : Token → Option Reading
  | .null => some (complete .null stack)
  | .bool b => some (complete (.bool b) stack)
  | .number n => some (complete (.number n) stack)
  | .string parts => some (complete (.string parts) stack)
  | .openArray => some ⟨.array [] :: stack, .firstItem⟩
  | .openObject => some ⟨stack, .firstField⟩
  | _ => none

def Reading.step (r : Reading) (token : Token) : Option Reading :=
  match r.expecting, token with
  | .value, token => value r.stack token
  | .firstItem, .closeArray =>
    match r.stack with
    | .array items :: stack => some (complete (.array items.reverse) stack)
    | _ => none
  | .firstItem, token => value r.stack token
  | .firstField, .closeObject => some (complete (.object []) r.stack)
  | .firstField, .string key => some ⟨r.stack, .colon [] key⟩
  | .name fields, .string key => some ⟨r.stack, .colon fields key⟩
  | .colon fields key, .colon => some ⟨.object fields key :: r.stack, .value⟩
  | .separator, .comma =>
    match r.stack with
    | .array items :: stack => some ⟨.array items :: stack, .value⟩
    | .object fields _ :: stack => some ⟨stack, .name fields⟩
    | [] => none
  | .separator, .closeArray =>
    match r.stack with
    | .array items :: stack => some (complete (.array items.reverse) stack)
    | _ => none
  | .separator, .closeObject =>
    match r.stack with
    | .object fields _ :: stack => some (complete (.object fields.reverse) stack)
    | _ => none
  | _, _ => none

def Reading.run : Reading → List Token → Option Reading
  | r, [] => some r
  | r, token :: rest => do
    let r ← r.step token
    run r rest

def ofTokens? (tokens : List Token) : Option Document := do
  let r ← Reading.run ⟨[], .value⟩ tokens
  match r.expecting with
  | .nothing document => some document
  | _ => none

/-- The document that a sequence of units writes down. -/
def ofUnits? (source : Text.Units) : Option Document := do
  ofTokens? (← tokens? source)

def ofText? (s : String) : Option Document := ofUnits? (Text.unitsOf s)

end Document

end NestedRows.Json
