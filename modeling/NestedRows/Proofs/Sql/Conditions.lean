import NestedRows.Proofs.Sql.Grouping
import NestedRows.Proofs.Sql.Meaning
/-!
# What conditions mean

The value of a condition for an assignment of its columns, with three outcomes of a comparison. How values
are compared and which of them count as true is left open (`Judgement`), and so is what a dialect shows for an
outcome, so everything here holds for the numbers of SQLite as for the truth values of PostgreSQL.

The conditions of a statement are read back from its text (`Query.conditionsIn?_render`). Grouping
conjunctions otherwise does not change a value, so what is read means what was written.
-/

namespace NestedRows.Sql

/-! ### Truth with unknowns -/

namespace Truth

def both : Option Bool → Option Bool → Option Bool
  | some false, _ => some false
  | _, some false => some false
  | some true, some true => some true
  | _, _ => none

def either : Option Bool → Option Bool → Option Bool
  | some true, _ => some true
  | _, some true => some true
  | some false, some false => some false
  | _, _ => none

theorem both_assoc (a b c : Option Bool) : both (both a b) c = both a (both b c) := by
  rcases a with _ | _ | _ <;> rcases b with _ | _ | _ <;> rcases c with _ | _ | _ <;> rfl

theorem both_true (a : Option Bool) : both a (some true) = a := by
  rcases a with _ | _ | _ <;> rfl

theorem true_both (a : Option Bool) : both (some true) a = a := by
  rcases a with _ | _ | _ <;> rfl

/-- Whether all of several conditions hold. -/
def all (l : List (Option Bool)) : Option Bool := l.foldr both (some true)

end Truth

/-- A way to compare values, and to take them for truth values and these for values. Null is what is shown of
an unknown outcome. -/
structure Judgement where
  same : Literal → Literal → Bool
  truth : Literal → Option Bool
  shown : Option Bool → Literal
  shown_none : shown none = .null
  truth_shown : ∀ o, truth (shown o) = o

namespace Judgement

variable (J : Judgement)

def compare : Literal → Literal → Option Bool
  | .null, _ => none
  | _, .null => none
  | v, w => some (J.same v w)

def among (v : Literal) (values : List Literal) : Option Bool :=
  values.foldr (fun w o => Truth.either (J.compare v w) o) (some false)

def conjunction (v w : Literal) : Literal := J.shown (Truth.both (J.truth v) (J.truth w))

theorem conjunction_assoc (u v w : Literal) :
    J.conjunction (J.conjunction u v) w = J.conjunction u (J.conjunction v w) := by
  simp only [conjunction, J.truth_shown, Truth.both_assoc]

end Judgement

namespace Expr

variable (d : Dialect) (J : Judgement) (scope : Scope)

mutual

/-- The value of an expression, as the dialect reads its literals. -/
def value : Expr → Literal
  | .column t c => scope t c
  | .literal l => l.stored d
  | .eq left right => J.shown (J.compare left.value right.value)
  | .and left right => J.conjunction left.value right.value
  | .isIn e values => J.shown (J.among e.value (valueList values))

def valueList : List Expr → List Literal
  | [] => []
  | e :: rest => e.value :: valueList rest

end

theorem value_join (a : Expr) : (b : Expr) →
    (a.join b).value d J scope = J.conjunction (a.value d J scope) (b.value d J scope)
  | .and right last => by
    rw [join, value, value_join a right, value, J.conjunction_assoc]
  | .column _ _ => rfl
  | .literal _ => rfl
  | .eq _ _ => rfl
  | .isIn _ _ => rfl

mutual

/-- What is read for the text of an expression has its value. -/
theorem value_flat : (e : Expr) → (e.flat d).value d J scope = e.value d J scope
  | .column t c => by rw [flat]
  | .literal l => by rw [flat, value, value, Literal.stored_stored]
  | .eq left right => by rw [flat, value, value, value_flat left, value_flat right]
  | .and left right => by rw [flat, value_join, value, value_flat left, value_flat right]
  | .isIn e values => by rw [flat, value, value, value_flat e, valueList_flatList values]

theorem valueList_flatList : (l : List Expr) → valueList d J scope (flatList d l) = valueList d J scope l
  | [] => by rw [flatList]
  | e :: rest => by rw [flatList, valueList, valueList, value_flat e, valueList_flatList rest]

end

end Expr

/-! ### The meaning of statements -/

/-- Values as PostgreSQL has them: truth values are values. -/
def Judgement.plain : Judgement where
  same := Literal.same
  truth
    | .bool b => some b
    | _ => none
  shown
    | some b => .bool b
    | none => .null
  shown_none := rfl
  truth_shown o := by cases o <;> rfl

/-- Values as SQLite has them, as far as whole numbers go: an outcome is a number. -/
def Judgement.numeric : Judgement where
  same := Literal.same
  truth
    | .int n => some (n != 0)
    | _ => none
  shown
    | some b => .int (if b then 1 else 0)
    | none => .null
  shown_none := rfl
  truth_shown o := by rcases o with _ | _ | _ <;> rfl

def judgement : Dialect → Judgement
  | .sqlite => .numeric
  | .postgres => .plain

namespace Judgement

theorem plain_equals (v w : Literal) : v.equals w = plain.shown (plain.compare v w) := by
  cases v <;> cases w <;> rfl

theorem plain_both (v w : Literal) : v.both w = plain.conjunction v w := by
  rcases v with _ | _ | _ | (_ | _) | _ <;> rcases w with _ | _ | _ | (_ | _) | _ <;> rfl

theorem plain_either (a b : Option Bool) :
    (plain.shown a).either (plain.shown b) = plain.shown (Truth.either a b) := by
  rcases a with _ | _ | _ <;> rcases b with _ | _ | _ <;> rfl

end Judgement

theorem Expr.eval_join (scope : Scope) (a : Expr) : (b : Expr) →
    (a.join b).eval scope = Judgement.plain.conjunction (a.eval scope) (b.eval scope)
  | .and right last => by
    rw [join, eval, eval_join scope a right, eval, Judgement.plain_both, Judgement.plain_both,
      Judgement.conjunction_assoc]
  | .column _ _ => Judgement.plain_both _ _
  | .literal _ => Judgement.plain_both _ _
  | .eq _ _ => Judgement.plain_both _ _
  | .isIn _ _ => Judgement.plain_both _ _

mutual

/-- What an expression that was read from a text means in a statement is its value. -/
theorem Expr.eval_flat (scope : Scope) : (e : Expr) →
    (e.flat .postgres).eval scope = e.value .postgres .plain scope
  | .column t c => rfl
  | .literal l => rfl
  | .eq left right => by
    rw [Expr.flat, Expr.eval, Expr.value, Expr.eval_flat scope left, Expr.eval_flat scope right,
      Judgement.plain_equals]
  | .and left right => by
    rw [Expr.flat, Expr.eval_join, Expr.value, Expr.eval_flat scope left, Expr.eval_flat scope right]
  | .isIn e values => by
    rw [Expr.flat, Expr.eval, Expr.value, Expr.eval_flat scope e]
    exact evalIn_flatList scope _ values

theorem evalIn_flatList (scope : Scope) (v : Literal) : (l : List Expr) →
    evalIn scope v (Expr.flatList .postgres l)
      = Judgement.plain.shown (Judgement.plain.among v (Expr.valueList .postgres .plain scope l))
  | [] => rfl
  | e :: rest => by
    rw [Expr.flatList, evalIn, Expr.eval_flat scope e, evalIn_flatList scope v rest,
      Judgement.plain_equals, Judgement.plain_either]
    rfl

end

/-! ### The conditions of a statement -/

/-- Whether a token opens a condition, or else another part of a statement. -/
def Token.opens : Token → Option Bool
  | .keyword .ON => some true
  | .keyword .WHERE => some true
  | .keyword .FROM => some false
  | .keyword .LEFT => some false
  | .keyword .ORDER_BY => some false
  | _ => none

/-- The tokens of each condition, behind those of the one that is being read. -/
def conditionTokens : Option (List Token) → List Token → List (List Token)
  | reading, [] => reading.toList
  | reading, t :: rest =>
    match t.opens with
    | none => conditionTokens (reading.map (· ++ [t])) rest
    | some condition => reading.toList ++ conditionTokens (if condition then some [] else none) rest

/-- The conditions in the text of a statement. -/
def conditionsIn? (d : Dialect) (s : String) : Option (List Expr) := do
  let tokens ← read? s
  (conditionTokens none tokens).mapM (conditionOf? d)

def Query.conditions (q : Query) : List Expr := q.joins.map (·.on) ++ q.condition.toList

/-- Tokens that open nothing. -/
def Inner (tokens : List Token) : Prop := ∀ t ∈ tokens, t.opens = none

theorem Inner.append {a b : List Token} (ha : Inner a) (hb : Inner b) : Inner (a ++ b) :=
  List.forall_mem_append.mpr ⟨ha, hb⟩

theorem Inner.cons {t : Token} {rest : List Token} (h : Inner rest) (ht : t.opens = none) :
    Inner (t :: rest) :=
  List.forall_mem_cons.mpr ⟨ht, h⟩

theorem inner_nil : Inner [] := nofun

theorem inner_readAs {t : Token} (h : t.opens = none) (d : Dialect) : Inner (t.readAs d) := by
  cases t with
  | qualified n s => cases n <;> simp [Inner, Token.readAs, Token.opens]
  | cast c => cases d <;> simp [Inner, Token.readAs, Token.opens]
  | literal l => simp [Inner, Literal.readAs, Token.opens]
  | _ => simp_all [Inner, Token.readAs, Token.opens]

theorem Inner.readAs {tokens : List Token} (h : Inner tokens) (d : Dialect) :
    Inner (tokens.flatMap (Token.readAs d)) := by
  intro t ht
  obtain ⟨t', ht', hread⟩ := List.mem_flatMap.mp ht
  exact inner_readAs (h t' ht') d t hread

mutual

theorem Expr.inner_tokens : (e : Expr) → Inner e.tokens
  | .column none c => inner_nil.cons rfl
  | .column (some t) c => ((inner_nil.cons rfl).cons rfl).cons rfl
  | .literal l => inner_nil.cons rfl
  | .eq left right => by
    rw [Expr.tokens, List.append_assoc]
    exact left.inner_tokens.append (((right.inner_tokens.cons rfl).cons rfl).cons rfl)
  | .and left right => by
    rw [Expr.tokens, List.append_assoc]
    exact left.inner_tokens.append (((right.inner_tokens.cons rfl).cons rfl).cons rfl)
  | .isIn e values => by
    rw [Expr.tokens, List.append_assoc, List.append_assoc]
    have hlist := (inner_listTokens values).append (inner_nil.cons (t := .closeParen) rfl)
    exact e.inner_tokens.append ((((hlist.cons rfl).cons rfl).cons rfl).cons rfl)

theorem inner_listTokens : (l : List Expr) → Inner (Expr.listTokens l)
  | [] => inner_nil
  | e :: rest => by
    rw [Expr.listTokens]
    exact e.inner_tokens.append (inner_moreTokens rest)

theorem inner_moreTokens : (l : List Expr) → Inner (Expr.moreTokens l)
  | [] => inner_nil
  | e :: rest => by
    rw [Expr.moreTokens]
    exact ((e.inner_tokens.append (inner_moreTokens rest)).cons rfl).cons rfl

end

theorem inner_aliasTokens : (a : Option String) → Inner (aliasTokens a)
  | none => inner_nil
  | some _ => (((inner_nil.cons rfl).cons rfl).cons rfl).cons rfl

theorem inner_tableRef (t : TableRef) : Inner t.tokens := (inner_aliasTokens t.aliasName).cons rfl

theorem inner_selectItem (i : SelectItem) : Inner i.tokens := by
  rw [SelectItem.tokens]
  refine (i.expr.inner_tokens.append ?_).append (inner_aliasTokens i.aliasName)
  cases i.cast with
  | none => exact inner_nil
  | some c => exact inner_nil.cons rfl

theorem inner_selectTokens : (l : List SelectItem) → Inner (selectTokens l)
  | [] => inner_nil
  | [i] => ((inner_selectItem i).cons rfl).cons rfl
  | i :: i' :: rest => by
    rw [selectTokens]
    · have hfirst := ((inner_selectItem i).cons (t := .indent 1) rfl).cons (t := .newline) rfl
      exact (hfirst.append (inner_nil.cons rfl)).append (inner_selectTokens (i' :: rest))
    · exact List.cons_ne_nil _ _

theorem inner_orderTokens : (l : List Expr) → Inner (orderTokens l)
  | [] => inner_nil
  | [e] => e.inner_tokens.append ((inner_nil.cons rfl).cons rfl)
  | e :: e' :: rest => by
    rw [orderTokens]
    · have hbehind : Inner [.space, .keyword .ASC, .comma, .space] :=
        (((inner_nil.cons rfl).cons rfl).cons rfl).cons rfl
      exact (e.inner_tokens.append hbehind).append (inner_orderTokens (e' :: rest))
    · exact List.cons_ne_nil _ _

theorem conditionTokens_inner {tokens : List Token} (h : Inner tokens) (reading : Option (List Token))
    (rest : List Token) :
    conditionTokens reading (tokens ++ rest) = conditionTokens (reading.map (· ++ tokens)) rest := by
  induction tokens generalizing reading with
  | nil => simp
  | cons t tokens ih =>
    obtain ⟨ht, htokens⟩ := List.forall_mem_cons.mp h
    rw [List.cons_append, conditionTokens, ht]
    simp only
    rw [ih htokens, Option.map_map]
    congr 1
    cases reading <;> simp

/-- Tokens behind which no condition goes on. -/
def Closes (rest : List Token) : Prop :=
  ∀ reading, conditionTokens reading rest = reading.toList ++ conditionTokens none rest

theorem closes_nil : Closes [] := fun reading => by simp [conditionTokens]

theorem closes_cons {t : Token} {condition : Bool} (h : t.opens = some condition) (rest : List Token) :
    Closes (t :: rest) := by
  intro reading
  rw [conditionTokens, conditionTokens, h]
  simp

theorem conditionTokens_open {t : Token} (h : t.opens = some true) {tokens rest : List Token}
    (htokens : Inner tokens) (hrest : Closes rest) (reading : Option (List Token)) :
    conditionTokens reading (t :: (tokens ++ rest))
      = reading.toList ++ tokens :: conditionTokens none rest := by
  rw [conditionTokens, h]
  simp only [if_true]
  rw [conditionTokens_inner htokens, hrest]
  simp

theorem conditionTokens_other {t : Token} (h : t.opens = some false) {tokens rest : List Token}
    (htokens : Inner tokens) (reading : Option (List Token)) :
    conditionTokens reading (t :: (tokens ++ rest)) = reading.toList ++ conditionTokens none rest := by
  rw [conditionTokens, h]
  simp only [Bool.false_eq_true, if_false]
  rw [conditionTokens_inner htokens, Option.map_none]

namespace Query

variable (d : Dialect)

/-! The parts of a statement as they are read. -/

def readSource : Option TableRef → List Token
  | none => []
  | some t => .keyword .FROM :: t.tokens.flatMap (Token.readAs d)

def readJoin (j : Join) : List Token :=
  .keyword .LEFT :: ((.keyword .JOIN :: j.table.tokens.flatMap (Token.readAs d)) ++
    .keyword .ON :: j.on.read d)

def readCondition : Option Expr → List Token
  | none => []
  | some e => .keyword .WHERE :: e.read d

def readOrder : List Expr → List Token
  | [] => []
  | e :: rest => .keyword .ORDER_BY :: (orderTokens (e :: rest)).flatMap (Token.readAs d)

theorem read_tokens (q : Query) : q.tokens.flatMap (Token.readAs d)
    = (.keyword .SELECT :: (selectTokens q.select).flatMap (Token.readAs d)) ++
      (readSource d q.source ++ (q.joins.flatMap (readJoin d) ++
        (readCondition d q.condition ++ readOrder d q.orderBy))) := by
  have hjoin : (fun j : Join => j.tokens.flatMap (Token.readAs d)) = readJoin d := by
    funext j
    simp [Join.tokens, Token.readAs, Expr.read, readJoin]
  obtain ⟨select, source, joins, condition, orderBy⟩ := q
  cases source <;> cases condition <;> cases orderBy <;>
    simp [tokens, readSource, readCondition, readOrder, Token.readAs, Expr.read, List.flatMap_assoc, hjoin]

theorem closes_joins {rest : List Token} (hrest : Closes rest) (joins : List Join) :
    Closes (joins.flatMap (readJoin d) ++ rest) := by
  cases joins with
  | nil => exact hrest
  | cons j joins => exact closes_cons rfl _

theorem conditionTokens_joins {rest : List Token} (hrest : Closes rest) (joins : List Join) :
    conditionTokens none (joins.flatMap (readJoin d) ++ rest)
      = joins.map (·.on.read d) ++ conditionTokens none rest := by
  induction joins with
  | nil => rfl
  | cons j joins ih =>
    have htable : Inner (.keyword .JOIN :: j.table.tokens.flatMap (Token.readAs d)) :=
      ((inner_tableRef j.table).readAs d).cons rfl
    have hon : Inner (j.on.read d) := j.on.inner_tokens.readAs d
    rw [List.flatMap_cons, readJoin, List.append_assoc, List.cons_append, List.append_assoc,
      conditionTokens_other rfl htable, List.cons_append,
      conditionTokens_open rfl hon (closes_joins d hrest joins), ih]
    rfl

theorem closes_order (l : List Expr) : Closes (readOrder d l) := by
  cases l with
  | nil => exact closes_nil
  | cons e rest => exact closes_cons rfl _

theorem conditionTokens_order (l : List Expr) : conditionTokens none (readOrder d l) = [] := by
  cases l with
  | nil => rfl
  | cons e rest =>
    have hinner := (inner_orderTokens (e :: rest)).readAs d
    have hother : conditionTokens none (.keyword .ORDER_BY :: (_ ++ [])) = [] :=
      conditionTokens_other rfl hinner none
    rwa [List.append_nil] at hother

theorem closes_condition (condition : Option Expr) (l : List Expr) :
    Closes (readCondition d condition ++ readOrder d l) := by
  cases condition with
  | none => exact closes_order d l
  | some e => exact closes_cons rfl _

theorem conditionTokens_condition (condition : Option Expr) (l : List Expr) :
    conditionTokens none (readCondition d condition ++ readOrder d l)
      = condition.toList.map (Expr.read d) := by
  cases condition with
  | none => exact conditionTokens_order d l
  | some e =>
    have hread : Inner (e.read d) := e.inner_tokens.readAs d
    rw [readCondition, List.cons_append, conditionTokens_open rfl hread (closes_order d l),
      conditionTokens_order]
    rfl

theorem conditionTokens_source (source : Option TableRef) (rest : List Token) :
    conditionTokens none (readSource d source ++ rest) = conditionTokens none rest := by
  cases source with
  | none => rfl
  | some t => exact conditionTokens_other rfl ((inner_tableRef t).readAs d) none

theorem conditionTokens_query (q : Query) :
    conditionTokens none (q.tokens.flatMap (Token.readAs d)) = q.conditions.map (Expr.read d) := by
  have hselect : Inner (.keyword .SELECT :: (selectTokens q.select).flatMap (Token.readAs d)) :=
    ((inner_selectTokens q.select).readAs d).cons rfl
  rw [read_tokens, conditionTokens_inner hselect, Option.map_none, conditionTokens_source,
    conditionTokens_joins d (closes_condition d q.condition q.orderBy), conditionTokens_condition]
  simp [conditions]

theorem mapM_conditionOf? {l : List Expr} (h : ∀ e ∈ l, e.Fits d .condition ∧ e.allowed d) :
    (l.map (Expr.read d)).mapM (conditionOf? d) = some (l.map (Expr.flat d)) := by
  induction l with
  | nil => rfl
  | cons e rest ih =>
    rw [List.forall_mem_cons] at h
    rw [List.map_cons, List.mapM_cons, h.1.1.conditionOf? h.1.2, ih h.2]
    rfl

/-- The conditions of a statement are read back from its text, each by itself. -/
theorem conditionsIn?_render {q : Query}
    (h : ∀ e ∈ q.conditions, e.Fits d .condition ∧ e.allowed d) :
    conditionsIn? d (q.render d) = some (q.conditions.map (Expr.flat d)) := by
  rw [conditionsIn?, render, read?_of_reads (reads_query q), Option.bind_eq_bind, Option.bind_some,
    conditionTokens_query]
  exact mapM_conditionOf? d h

/-! ### Filters -/

/-- What conjunctions inherit holds of the condition that filters have put together. -/
theorem forall_filters {P : Expr → Prop} (hand : ∀ left right, P left → P right → P (.and left right))
    {q : Query} {filters : List Expr} (hq : ∀ e ∈ q.condition, P e) (hfilters : ∀ e ∈ filters, P e) :
    ∀ e ∈ (filters.foldl filter q).condition, P e := by
  induction filters generalizing q with
  | nil => exact hq
  | cons f rest ih =>
    rw [List.forall_mem_cons] at hfilters
    refine ih ?_ hfilters.2
    rintro _ ⟨⟩
    cases hcondition : q.condition with
    | none => exact hfilters.1
    | some c => exact hand c f (hq c hcondition) hfilters.1

/-- Whether the condition of a statement holds, which it does if there is none. -/
def truth (J : Judgement) (scope : Scope) (q : Query) : Option Bool :=
  Truth.all (q.condition.toList.map fun e => J.truth (e.value d J scope))

theorem truth_filter (J : Judgement) (scope : Scope) (q : Query) (e : Expr) :
    (q.filter e).truth d J scope = Truth.both (q.truth d J scope) (J.truth (e.value d J scope)) := by
  cases hcondition : q.condition with
  | none =>
    simp only [truth, filter, hcondition]
    change Truth.both (J.truth (e.value d J scope)) (some true) = _
    rw [Truth.both_true]
    exact (Truth.true_both _).symm
  | some c =>
    simp only [truth, filter, hcondition]
    change Truth.both (J.truth (J.conjunction _ _)) (some true) = Truth.both (Truth.both _ (some true)) _
    rw [Judgement.conjunction, J.truth_shown, Truth.both_true, Truth.both_true]

theorem truth_filters (J : Judgement) (scope : Scope) (q : Query) (filters : List Expr) :
    (filters.foldl filter q).truth d J scope =
      Truth.both (q.truth d J scope) (Truth.all (filters.map fun e => J.truth (e.value d J scope))) := by
  induction filters generalizing q with
  | nil => exact (Truth.both_true _).symm
  | cons e rest ih =>
    rw [List.foldl_cons, ih, truth_filter, Truth.both_assoc]
    rfl

end Query

/-! ### Expressions of one text -/

namespace Expr

variable {d : Dialect}

/-- A text is that of one expression, up to the grouping of conjunctions. -/
theorem Fits.flat_eq_of_render_eq {e e' : Expr} (h : e.Fits d .condition) (h' : e'.Fits d .condition)
    (htext : e.render d = e'.render d) : e.flat d = e'.flat d := by
  have htokens : some (e.read d) = some (e'.read d) := by
    rw [← read?_render, ← read?_render, htext]
  have hgrouped := h.grouped?
  rw [Option.some.inj htokens, h'.grouped?] at hgrouped
  exact (Option.some.inj hgrouped).symm

theorem join_ne_isIn (a x : Expr) (values : List Expr) : (b : Expr) → a.join b ≠ .isIn x values
  | .and _ _ => nofun
  | .column _ _ => nofun
  | .literal _ => nofun
  | .eq _ _ => nofun
  | .isIn _ _ => nofun

theorem exists_isIn_of_flat {e x : Expr} {values : List Expr} (h : e.flat d = .isIn x values) :
    ∃ x' values', e = .isIn x' values' ∧ x'.flat d = x ∧ flatList d values' = values := by
  cases e with
  | column => simp [flat] at h
  | literal => simp [flat] at h
  | eq => simp [flat] at h
  | and left right =>
    rw [flat] at h
    exact (join_ne_isIn _ _ _ _ h).elim
  | isIn x' values' =>
    rw [flat, isIn.injEq] at h
    exact ⟨x', values', rfl, h⟩

end Expr

/-- **Conditions that need no parentheses keep their meaning.** The text of an expression is read, by the
precedence of the dialect, as the expression exactly if it needs none and the dialect allows it; conjunctions
may be grouped otherwise. Two expressions of one text that need none have one value, however values are
compared. The conditions of a statement, those of its joins and its own, are read back from its text each by
itself. The one that filters have put together needs no parentheses if none of them does, is allowed if they
are, and means all of them. A membership stays one: what is tested, and the list, are not grouped with what
stands around. -/
theorem conditions_keep_their_meaning (d : Dialect) :
    (∀ e : Expr, parse? d (e.render d) = some (e.flat d) ↔ e.Fits d .condition ∧ e.allowed d) ∧
    (∀ e e' : Expr, e.Fits d .condition → e'.Fits d .condition → e.render d = e'.render d →
      ∀ J scope, e.value d J scope = e'.value d J scope) ∧
    (∀ q : Query, (∀ e ∈ q.conditions, e.Fits d .condition ∧ e.allowed d) →
      conditionsIn? d (q.render d) = some (q.conditions.map (Expr.flat d)) ∧
      ∀ e ∈ q.conditions, ∀ J scope, (e.flat d).value d J scope = e.value d J scope) ∧
    (∀ (q : Query) (filters : List Expr), (∀ e ∈ q.condition, e.Fits d .condition) →
      (∀ e ∈ filters, e.Fits d .condition) →
      (∀ e ∈ (filters.foldl Query.filter q).condition, e.Fits d .condition) ∧
      ((∀ e ∈ q.condition, e.allowed d) → (∀ e ∈ filters, e.allowed d) →
        ∀ e ∈ (filters.foldl Query.filter q).condition, e.allowed d) ∧
      ∀ J scope, (filters.foldl Query.filter q).truth d J scope = Truth.both (q.truth d J scope)
        (Truth.all (filters.map fun e => J.truth (e.value d J scope)))) ∧
    ∀ (x : Expr) (values : List Expr) (e : Expr), (Expr.isIn x values).Fits d .condition →
      e.Fits d .condition → e.render d = (Expr.isIn x values).render d →
      ∃ x' values', e = .isIn x' values' ∧ ∀ J scope, x'.value d J scope = x.value d J scope ∧
        Expr.valueList d J scope values' = Expr.valueList d J scope values := by
  refine ⟨fun e => Expr.parse?_render_iff, ?_, ?_, ?_, ?_⟩
  · intro e e' he he' htext J scope
    rw [← Expr.value_flat, he.flat_eq_of_render_eq he' htext, Expr.value_flat]
  · exact fun q hq => ⟨Query.conditionsIn?_render d hq, fun e _ J scope => Expr.value_flat d J scope e⟩
  · intro q filters hq hfilters
    refine ⟨Query.forall_filters (fun _ _ => .and) hq hfilters, ?_,
      fun J scope => Query.truth_filters d J scope q filters⟩
    refine Query.forall_filters fun left right hleft hright => ?_
    rw [Expr.allowed_and, hleft, hright, Bool.and_self]
  · intro x values e hin he htext
    have hflat := he.flat_eq_of_render_eq hin htext
    rw [Expr.flat] at hflat
    obtain ⟨x', values', rfl, hx, hvalues⟩ := Expr.exists_isIn_of_flat hflat
    refine ⟨x', values', rfl, fun J scope => ⟨?_, ?_⟩⟩
    · rw [← Expr.value_flat, hx, Expr.value_flat]
    · rw [← Expr.valueList_flatList, hvalues, Expr.valueList_flatList]

/-- Two filters, of which the first is a join's key. -/
def Query.filtered : Query :=
  { joins := [⟨{ table := "orders" }, .eq (.columnOf "t" "id") (.columnOf "orders" "customer")⟩] }

theorem conditions_keep_their_meaning_filtered :
    let filters : List Expr := [.isIn (.column none "id") [.literal (.int 1)], .literal (.bool true)]
    (∀ e ∈ filters, e.Fits .sqlite .condition) ∧
      (∀ e ∈ (filters.foldl Query.filter Query.filtered).conditions, e.Fits .sqlite .condition) ∧
      conditionsIn? .sqlite ((filters.foldl Query.filter Query.filtered).render .sqlite)
        = some ((filters.foldl Query.filter Query.filtered).conditions.map (Expr.flat .sqlite)) := by
  intro filters
  have hid : (Expr.isIn (.column none "id") [.literal (.int 1)]).Fits .sqlite .condition := by
    refine .condition (.isIn rfl (.comparison (.column none "id")) ?_)
    rw [List.forall_mem_singleton]
    exact .condition (.comparison (.literal _))
  have hfilters : ∀ e ∈ filters, e.Fits .sqlite .condition := by
    rw [List.forall_mem_cons, List.forall_mem_singleton]
    exact ⟨hid, .condition (.comparison (.literal _))⟩
  have hon : (Expr.eq (.columnOf "t" "id") (.columnOf "orders" "customer")).Fits .sqlite .condition :=
    .condition (.eq (.comparison (.column ..)) (.column ..))
  obtain ⟨-, -, hstatement, hfiltered, -⟩ := conditions_keep_their_meaning .sqlite
  have hall : ∀ e ∈ (filters.foldl Query.filter Query.filtered).conditions, e.Fits .sqlite .condition := by
    have hcondition := (hfiltered Query.filtered filters nofun hfilters).1
    intro e he
    rcases List.mem_append.mp he with he | he
    · obtain rfl := List.mem_singleton.mp he
      exact hon
    · exact hcondition e (Option.mem_toList.mp he)
  exact ⟨hfilters, hall, (hstatement _ fun e he => ⟨hall e he, rfl⟩).1⟩

/-- Pairs of expressions of which one needs parentheses where the other does not: a conjunction as a side of
an equality or tested for membership, an equality as the right side of another, and a membership of an
equality against an equality with a membership. -/
def clashes : List (Expr × Expr) :=
  let f : Expr := .literal (.bool false)
  let t : Expr := .literal (.bool true)
  let five : Expr := .literal (.int 5)
  [(.eq (.and f f) f, .and f (.eq f f)),
    (.eq f (.and f f), .and (.eq f f) f),
    (.isIn (.and f f) [f], .and f (.isIn f [f])),
    (.eq t (.eq five five), .eq (.eq t five) five),
    (.eq f (.isIn f [t, f]), .isIn (.eq f f) [t, f])]

/-- Two expressions have the same text, but not the same value. -/
def Clash (d : Dialect) (e other : Expr) : Prop :=
  e.render d = other.render d ∧
    e.value d (judgement d) (fun _ _ => .null) ≠ other.value d (judgement d) (fun _ _ => .null)

instance (d : Dialect) (e other : Expr) : Decidable (Clash d e other) :=
  inferInstanceAs (Decidable (_ ∧ _))

/-- Without parentheses such expressions have the text of others that mean something else. -/
theorem clashing_conditions :
    (∀ p ∈ clashes, Clash .sqlite p.1 p.2) ∧ ∀ p ∈ clashes, Clash .postgres p.1 p.2 := by
  decide +kernel

end NestedRows.Sql
