import NestedRows.Json.Basic
import NestedRows.Text.Case
/-!
# SQL dialects

Two dialects of SQL. They agree on quoting: a name stands between double quotes and a text between
single ones, and the quote itself is written twice inside. They differ in truth values, which SQLite
stores as numbers, and in the casts that a selected column needs before it can be read.
-/

namespace NestedRows

/-- A dialect of SQL. -/
inductive Dialect where
  | sqlite
  | postgres
  deriving DecidableEq

/-- What a selected column is converted to. -/
inductive ScalarCast where
  /-- A double precision number. -/
  | float
  /-- A text. -/
  | text
  deriving DecidableEq

namespace Dialect

def name : Dialect → String
  | sqlite => "sqlite"
  | postgres => "postgres"

/-- The dialect that a text names in letters of any case, or else the text in lower case. -/
def parse (s : String) : Except String Dialect :=
  let lowered := String.ofList (Text.toLowerAscii s.toList)
  match lowered with
  | "sqlite" => .ok sqlite
  | "postgres" | "postgresql" | "pg" => .ok postgres
  | _ => .error lowered

/-- What is said of a text that names no dialect. -/
def unsupportedMessage (lowered : String) : String := "unsupported dialect: " ++ lowered

/-- A text between quotes, with the quotes in it written twice. -/
def enclosed (quote : Char) (s : List Char) : List Char :=
  quote :: s.flatMap (fun c => if c = quote then [quote, quote] else [c]) ++ [quote]

def quoteName (_ : Dialect) (s : String) : List Char := enclosed '"' s.toList

def quoteText (_ : Dialect) (s : String) : List Char := enclosed '\'' s.toList

def boolText : Dialect → Bool → List Char
  | sqlite, true => ['1']
  | sqlite, false => ['0']
  | postgres, true => "true".toList
  | postgres, false => "false".toList

def nullText (_ : Dialect) : List Char := "NULL".toList

def castSuffix : Dialect → ScalarCast → List Char
  | sqlite, _ => []
  | postgres, .float => "::double precision".toList
  | postgres, .text => "::text".toList

def toJson (d : Dialect) : Json := .str d.name

end Dialect

end NestedRows
