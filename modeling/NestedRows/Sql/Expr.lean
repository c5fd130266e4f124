import NestedRows.Sql.Token
/-!
# Conditions

Columns, constants, equality, conjunction and membership in a list. Conditions are written without
parentheses, which is all that the statements of this library need: an equality never stands inside
another condition than a conjunction.
-/

namespace NestedRows.Sql

/-- An expression of SQL. -/
inductive Expr where
  /-- A column, behind the name of its table if that is given. -/
  | column (table : Option String) (column : String)
  | literal (l : Literal)
  | eq (left right : Expr)
  | and (left right : Expr)
  | isIn (e : Expr) (values : List Expr)

namespace Expr

instance : Inhabited Expr := ⟨literal .null⟩

def columnOf (table column : String) : Expr := .column (some table) column

mutual

def tokens : Expr → List Token
  | .column none c => [.name c]
  | .column (some t) c => [.name t, .dot, .name c]
  | literal l => [.literal l]
  | eq left right => left.tokens ++ [.space, .equals, .space] ++ right.tokens
  | and left right => left.tokens ++ [.space, .keyword .AND, .space] ++ right.tokens
  | isIn e values =>
    e.tokens ++ [.space, .keyword .IN, .space, .openParen] ++ listTokens values ++ [.closeParen]

def listTokens : List Expr → List Token
  | [] => []
  | e :: rest => e.tokens ++ moreTokens rest

/-- The tokens of the expressions behind the first, each after a comma. -/
def moreTokens : List Expr → List Token
  | [] => []
  | e :: rest => .comma :: .space :: e.tokens ++ moreTokens rest

end

def render (d : Dialect) (e : Expr) : String := renderTokens d e.tokens

end Expr

end NestedRows.Sql
