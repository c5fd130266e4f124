import NestedRows.Json.Reader
import NestedRows.Text.Blank
import NestedRows.Text.Case
import NestedRows.Text.Digit
import NestedRows.Text.Word
/-!
# Scalar types and native type names

A column carries one of four scalar types. Which one is read off the leading word of the type name
that the database declares, in upper case and without parameters: `VARCHAR(255)` is a string and
`unsigned` behind an integer is ignored. A word that no rule of `affinityRules` covers has no type.
-/

namespace NestedRows

/-- The scalar type of a column. -/
inductive FieldType where
  | int
  | float
  | string
  | bool
  deriving DecidableEq

namespace FieldType

/-- The type as it is written in documents and messages. -/
def toText : FieldType → String
  | int => "INT"
  | float => "FLOAT"
  | string => "STRING"
  | bool => "BOOL"

/-- The type as it is written in type definitions. -/
def scalarName : FieldType → String
  | int => "Int"
  | float => "Float"
  | string => "String"
  | bool => "Boolean"

def ofText? : String → Option FieldType
  | "INT" => some int
  | "FLOAT" => some float
  | "STRING" => some string
  | "BOOL" => some bool
  | _ => none

end FieldType

/-- What may follow the leading part of a native type name. -/
inductive AffinityTail where
  | nothing
  | digits
  | word
  deriving DecidableEq

def AffinityTail.accepts : AffinityTail → List Char → Bool
  | nothing, tail => tail.isEmpty
  | digits, tail => tail.all Text.isDigit
  | word, tail => tail.all Text.isWordChar

/-- Native names that start with one of `heads` and go on as `tail` allows have type `type`. -/
structure AffinityRule where
  heads : List String
  tail : AffinityTail
  fieldType : FieldType

def affinityRules : List AffinityRule := [
  ⟨["INT", "TINYINT", "SMALLINT", "MEDIUMINT", "BIGINT",
    "INTEGER", "TINYINTEGER", "SMALLINTEGER", "MEDIUMINTEGER", "BIGINTEGER"], .digits, .int⟩,
  ⟨["SERIAL", "SMALLSERIAL", "BIGSERIAL"], .digits, .int⟩,
  ⟨["REAL", "NUMERIC", "DECIMAL"], .nothing, .float⟩,
  ⟨["FLOAT", "DOUBLE"], .word, .float⟩,
  ⟨["CHAR", "NCHAR", "VARCHAR", "NVARCHAR"], .word, .string⟩,
  ⟨["VARYING", "TEXT", "CLOB", "UUID"], .nothing, .string⟩,
  ⟨["BOOL"], .word, .bool⟩]

def AffinityRule.covers (r : AffinityRule) (word : List Char) : Bool :=
  r.heads.any fun head =>
    match head.toList.isPrefixOf? word with
    | some tail => r.tail.accepts tail
    | none => false

/-- Whether a parameter list starts here: an opening parenthesis, possibly behind white space, that
is closed somewhere. -/
def startsParameters (s : List Char) : Bool :=
  match s.dropWhile Text.isBlank with
  | '(' :: rest => rest.contains ')'
  | _ => false

/-- Drops parameter lists with the white space in front of them; `inside` one, everything up to the
closing parenthesis is dropped. -/
def dropParameters (inside : Bool) : List Char → List Char
  | [] => []
  | c :: rest =>
    if inside then dropParameters (c != ')') rest
    else if startsParameters (c :: rest) then dropParameters true rest
    else c :: dropParameters false rest

/-- The leading word of a native type name, in upper case and without parameters. -/
def leadingWord? (native : List Char) : Option (List Char) :=
  Text.firstWord? (dropParameters false (Text.toUpper (Text.trim native)))

def FieldType.ofNative? (native : String) : Option FieldType := do
  let word ← leadingWord? native.toList
  let rule ← affinityRules.find? (·.covers word)
  return rule.fieldType

/-- The type that a document holds: its name, or an object with the name as its one name and null as
its value. -/
def FieldType.ofDocument? : Nat → Json.Document → Option FieldType
  | _, d@(.string _) => do ofText? (← d.text?)
  | _ + 1, .object [(name, .null)] => do ofText? (String.ofList (← Json.text? name))
  | _, _ => none

end NestedRows
