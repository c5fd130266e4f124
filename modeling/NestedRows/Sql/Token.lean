import NestedRows.Sql.Dialect
/-!
# Tokens of SQL

A statement is a list of tokens, and its text is the texts of the tokens one after the other. Blanks
are tokens too. Only names, literals and casts depend on the dialect.
-/

namespace NestedRows.Sql

/-- A word of the language. -/
inductive Keyword where
  | SELECT
  | FROM
  | WHERE
  | AND
  | AS
  | ON
  | JOIN
  | LEFT
  | ORDER_BY
  | ASC
  | IN
  deriving DecidableEq

def Keyword.text : Keyword → List Char
  | SELECT => "SELECT".toList
  | FROM => "FROM".toList
  | WHERE => "WHERE".toList
  | AND => "AND".toList
  | AS => "AS".toList
  | ON => "ON".toList
  | JOIN => "JOIN".toList
  | LEFT => "LEFT".toList
  | ORDER_BY => "ORDER BY".toList
  | ASC => "ASC".toList
  | IN => "IN".toList

/-- A constant. -/
inductive Literal where
  | int (n : Int)
  | float (x : Binary64)
  | text (s : String)
  | bool (b : Bool)
  | null
  deriving DecidableEq

/-- The constant for a value. Whole numbers beyond 63 bits become doubles; arrays and objects are no
constants. -/
def Literal.ofJson? : Json → Option Literal
  | .null => some .null
  | .bool b => some (.bool b)
  | .int n => 
    if -0x8000000000000000 ≤ n ∧ n < 0x8000000000000000 then some (.int n)
    else some (.float (Binary64.ofInt n))
  | .float x => some (.float x)
  | .str s => some (.text s)
  | .arr _ => none
  | .obj _ => none

/-- The constant as it is written. What is no number is null. -/
def Literal.render (d : Dialect) : Literal → List Char
  | int n => intDigits n
  | float x => if x.isFinite then (x.render .sql).toList else d.nullText
  | text s => d.quoteText s
  | bool b => d.boolText b
  | null => d.nullText

/-- A token. -/
inductive Token where
  | keyword (k : Keyword)
  | comma
  | dot
  | openParen
  | closeParen
  | equals
  | cast (c : ScalarCast)
  | space
  | newline
  | indent (levels : Nat)
  | name (s : String)
  /-- A name behind the name of its namespace, if that is given. -/
  | qualified (namespaceName : Option String) (s : String)
  | literal (l : Literal)
  deriving DecidableEq

def Token.render (d : Dialect) : Token → List Char
  | keyword k => k.text
  | comma => [',']
  | dot => ['.']
  | openParen => ['(']
  | closeParen => [')']
  | equals => ['=']
  | cast c => d.castSuffix c
  | space => [' ']
  | newline => ['\n']
  | indent levels => List.replicate (2 * levels) ' '
  | name s => d.quoteName s
  | qualified none s => d.quoteName s
  | qualified (some n) s => d.quoteName n ++ '.' :: d.quoteName s
  | literal l => l.render d

def renderTokens (d : Dialect) (tokens : List Token) : String :=
  String.ofList (tokens.flatMap (Token.render d))

end NestedRows.Sql
