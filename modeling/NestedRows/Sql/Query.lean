import NestedRows.Sql.Expr
/-!
# Statements

The one kind of statement that answers a query: a list of selected columns from a table, with left
joins, at most one condition and an ascending order. Each clause stands on a line of its own.
-/

namespace NestedRows.Sql

/-- A selected expression, possibly converted, possibly named. -/
structure SelectItem where
  expr : Expr
  cast : Option ScalarCast := none
  aliasName : Option String := none

/-- A table, possibly in a namespace, possibly named. -/
structure TableRef where
  namespaceName : Option String := none
  table : String
  aliasName : Option String := none

/-- A left join: rows without a partner stay. -/
structure Join where
  table : TableRef
  on : Expr

/-- A statement. -/
structure Query where
  select : List SelectItem := []
  source : Option TableRef := none
  joins : List Join := []
  condition : Option Expr := none
  orderBy : List Expr := []

def aliasTokens : Option String → List Token
  | none => []
  | some a => [.space, .keyword .AS, .space, .name a]

def SelectItem.tokens (s : SelectItem) : List Token :=
  s.expr.tokens ++ (s.cast.map Token.cast).toList ++ aliasTokens s.aliasName

def TableRef.tokens (t : TableRef) : List Token :=
  .qualified t.namespaceName t.table :: aliasTokens t.aliasName

def Join.tokens (j : Join) : List Token :=
  [.keyword .LEFT, .space, .keyword .JOIN, .space] ++ j.table.tokens
    ++ [.space, .keyword .ON, .space] ++ j.on.tokens

def orderTokens : List Expr → List Token
  | [] => []
  | [e] => e.tokens ++ [.space, .keyword .ASC]
  | e :: rest => e.tokens ++ [.space, .keyword .ASC, .comma, .space] ++ orderTokens rest

/-- The tokens of the selected expressions, each on its own line. -/
def selectTokens : List SelectItem → List Token
  | [] => []
  | [s] => [.newline, .indent 1] ++ s.tokens
  | s :: rest => [.newline, .indent 1] ++ s.tokens ++ [.comma] ++ selectTokens rest

namespace Query

/-- Adds a condition to those that the query already has. -/
def filter (q : Query) (e : Expr) : Query :=
  { q with condition := some (match q.condition with
      | some existing => .and existing e
      | none => e) }

def tokens (q : Query) : List Token :=
  [.keyword .SELECT] ++ selectTokens q.select
    ++ (match q.source with
      | some t => [.newline, .keyword .FROM, .space] ++ t.tokens
      | none => [])
    ++ q.joins.flatMap (fun j => .newline :: j.tokens)
    ++ (match q.condition with
      | some e => [.newline, .keyword .WHERE, .space] ++ e.tokens
      | none => [])
    ++ (if q.orderBy.isEmpty then []
      else [.newline, .keyword .ORDER_BY, .space] ++ orderTokens q.orderBy)

def render (d : Dialect) (q : Query) : String := renderTokens d q.tokens

end Query

end NestedRows.Sql
