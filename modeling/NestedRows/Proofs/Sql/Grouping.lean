import NestedRows.Proofs.Sql.Reading
/-!
# Conditions read back

Conditions are written without parentheses, so the text of one tells how it is put together only as far as
the precedence of the dialect does. The reader here follows it (`Parsing.step`): AND binds weakest, and in
SQLite `=` and IN are of one strength and taken from the left. In PostgreSQL IN binds tighter, and its `=`
does not chain: `a = b = c` is grouped from the left there too, and then refused (`Expr.allowed`).

An expression may stand in a place of a condition if it needs no parentheses there to be grouped as it is
(`Expr.Fits`). The text of a condition is grouped as the condition exactly if it is put together of such
expressions (`Expr.grouped?_read_iff`), and read as the condition if besides the dialect allows it
(`Expr.parse?_render_iff`). Only the grouping of conjunctions is lost, and what a dialect has no way to write
is read as what it writes instead (`Expr.flat`).
-/

namespace NestedRows.Sql

/-! ### The grammar -/

/-- A place in a condition, from the right side of an equality to the side of a conjunction. -/
inductive Place where
  | operand
  | comparison
  | condition
  deriving DecidableEq

/-- Where a membership may stand, and what may stand in front of its list. -/
def membership : Dialect → Place
  | .sqlite => .comparison
  | .postgres => .operand

/-- Expressions that need no parentheses in a place to be grouped as they are. The members of a list are
between parentheses as they are. -/
inductive Expr.Fits (d : Dialect) : Place → Expr → Prop where
  | column (table : Option String) (column : String) : Fits d .operand (.column table column)
  | literal (l : Literal) : Fits d .operand (.literal l)
  | isIn {p : Place} {e : Expr} {values : List Expr} (hp : p = membership d) (he : Fits d p e)
      (hvalues : ∀ v ∈ values, Fits d .condition v) : Fits d p (.isIn e values)
  | eq {left right : Expr} (hleft : Fits d .comparison left) (hright : Fits d .operand right) :
      Fits d .comparison (.eq left right)
  | and {left right : Expr} (hleft : Fits d .condition left) (hright : Fits d .condition right) :
      Fits d .condition (.and left right)
  | comparison {e : Expr} (he : Fits d .operand e) : Fits d .comparison e
  | condition {e : Expr} (he : Fits d .comparison e) : Fits d .condition e

/-! ### What is read -/

/-- A literal as the dialect has it: SQLite has numbers for truth values, and a float that is no number is
null. -/
def Literal.stored : Dialect → Literal → Literal
  | .sqlite, .bool b => .int (if b then 1 else 0)
  | _, .float x => if x.isFinite then .float x else .null
  | _, l => l

theorem Literal.stored_stored (d : Dialect) (l : Literal) : (l.stored d).stored d = l.stored d := by
  cases l with
  | float x => cases d <;> by_cases hx : x.isFinite <;> simp [stored, hx]
  | _ => cases d <;> rfl

theorem Literal.readAs (d : Dialect) (l : Literal) :
    (Token.literal l).readAs d = [.literal (l.stored d)] := by
  cases l with
  | float x => cases d <;> by_cases hx : x.isFinite <;> simp [Token.readAs, stored, hx]
  | _ => cases d <;> rfl

namespace Expr

def isEquality : Expr → Bool
  | .eq _ _ => true
  | _ => false

/-- The conjunction of two expressions, grouped from the left. -/
def join (left : Expr) : Expr → Expr
  | .and right last => .and (left.join right) last
  | e => .and left e

theorem join_join (a b : Expr) : (c : Expr) → (a.join b).join c = a.join (b.join c)
  | .and right last => by rw [join, join, join, join_join a b right]
  | .column _ _ => rfl
  | .literal _ => rfl
  | .eq _ _ => rfl
  | .isIn _ _ => rfl

mutual

/-- The expression that the text of an expression stands for. -/
def flat (d : Dialect) : Expr → Expr
  | .column t c => .column t c
  | .literal l => .literal (l.stored d)
  | .eq left right => .eq (left.flat d) (right.flat d)
  | .and left right => (left.flat d).join (right.flat d)
  | .isIn e values => .isIn (e.flat d) (flatList d values)

def flatList (d : Dialect) : List Expr → List Expr
  | [] => []
  | e :: rest => e.flat d :: flatList d rest

end

mutual

/-- Whether an equality stands left of another, in the expression or in one that it holds. -/
def chained : Expr → Bool
  | .column _ _ => false
  | .literal _ => false
  | .eq left right => left.isEquality || left.chained || right.chained
  | .and left right => left.chained || right.chained
  | .isIn e values => e.chained || chainedIn values

def chainedIn : List Expr → Bool
  | [] => false
  | e :: rest => e.chained || chainedIn rest

end

/-- Whether a dialect has such expressions: in PostgreSQL an equality does not chain. -/
def allowed : Dialect → Expr → Bool
  | .sqlite, _ => true
  | .postgres, e => !e.chained

theorem flatList_eq_map (d : Dialect) (l : List Expr) : flatList d l = l.map (flat d) := by
  induction l with
  | nil => rfl
  | cons e rest ih => rw [flatList, ih, List.map_cons]

theorem isEquality_join (a : Expr) : (b : Expr) → (a.join b).isEquality = false
  | .and _ _ => rfl
  | .column _ _ => rfl
  | .literal _ => rfl
  | .eq _ _ => rfl
  | .isIn _ _ => rfl

theorem isEquality_flat (d : Dialect) : (e : Expr) → (e.flat d).isEquality = e.isEquality
  | .column _ _ => rfl
  | .literal _ => rfl
  | .eq _ _ => rfl
  | .and _ _ => by
    rw [flat, isEquality_join, isEquality]
    exact nofun
  | .isIn _ _ => rfl

theorem chained_join (a : Expr) : (b : Expr) → (a.join b).chained = (a.chained || b.chained)
  | .and right last => by rw [join, chained, chained_join a right, chained, Bool.or_assoc]
  | .column _ _ => rfl
  | .literal _ => rfl
  | .eq _ _ => rfl
  | .isIn _ _ => rfl

mutual

theorem chained_flat (d : Dialect) : (e : Expr) → (e.flat d).chained = e.chained
  | .column _ _ => by rw [flat]
  | .literal _ => rfl
  | .eq left right => by
    rw [flat, chained, chained, isEquality_flat, chained_flat d left, chained_flat d right]
  | .and left right => by
    rw [flat, chained_join, chained, chained_flat d left, chained_flat d right]
  | .isIn e values => by
    rw [flat, chained, chained, chained_flat d e, chainedIn_flatList d values]

theorem chainedIn_flatList (d : Dialect) : (l : List Expr) → chainedIn (flatList d l) = chainedIn l
  | [] => rfl
  | e :: rest => by
    rw [flatList, chainedIn, chainedIn, chained_flat d e, chainedIn_flatList d rest]

end

theorem allowed_and (d : Dialect) (left right : Expr) :
    (Expr.and left right).allowed d = (left.allowed d && right.allowed d) := by
  cases d with
  | sqlite => rfl
  | postgres => exact Bool.not_or left.chained right.chained

theorem allowed_flat (d : Dialect) (e : Expr) : (e.flat d).allowed d = e.allowed d := by
  cases d with
  | sqlite => rfl
  | postgres => rw [allowed, allowed, chained_flat]

/-- What is read for the tokens of an expression. -/
def read (d : Dialect) (e : Expr) : List Token := e.tokens.flatMap (Token.readAs d)

def readList (d : Dialect) (l : List Expr) : List Token := (listTokens l).flatMap (Token.readAs d)

def readMore (d : Dialect) (l : List Expr) : List Token := (moreTokens l).flatMap (Token.readAs d)

variable (d : Dialect)

theorem read_column_none (c : String) : (column none c).read d = [.name c] := by
  simp [read, tokens, Token.readAs]

theorem read_column_some (t c : String) : (column (some t) c).read d = [.name t, .dot, .name c] := by
  simp [read, tokens, Token.readAs]

theorem read_literal (l : Literal) : (literal l).read d = [.literal (l.stored d)] := by
  simp [read, tokens, Literal.readAs]

theorem read_eq (left right : Expr) : (eq left right).read d = left.read d ++ .equals :: right.read d := by
  simp [read, tokens, Token.readAs]

theorem read_and (left right : Expr) :
    (and left right).read d = left.read d ++ .keyword .AND :: right.read d := by
  simp [read, tokens, Token.readAs]

theorem read_isIn (e : Expr) (values : List Expr) : (isIn e values).read d
    = e.read d ++ .keyword .IN :: .openParen :: (readList d values ++ [.closeParen]) := by
  simp [read, readList, tokens, Token.readAs]

theorem readList_cons (e : Expr) (rest : List Expr) :
    readList d (e :: rest) = e.read d ++ readMore d rest := by
  simp [readList, readMore, read, listTokens]

theorem readMore_nil : readMore d [] = [] := by
  simp [readMore, moreTokens]

theorem readMore_cons (e : Expr) (rest : List Expr) :
    readMore d (e :: rest) = .comma :: (e.read d ++ readMore d rest) := by
  simp [readMore, read, moreTokens, Token.readAs]

end Expr

/-! ### The reader -/

/-- How far an operand has been read. -/
inductive Operand where
  | missing
  /-- A name, which is a column's unless a dot follows. -/
  | named (s : String)
  | owned (table : String)
  | known (e : Expr)
  /-- Behind an IN. -/
  | tested (e : Expr)

def Operand.expr? : Operand → Option Expr
  | named s => some (.column none s)
  | known e => some e
  | _ => none

/-- What has been read since the last parenthesis that is open: the conjunction of the comparisons that are
complete, the left side of the equality that is not, and the operand. -/
structure Level where
  conjunction : Option Expr := none
  left : Option Expr := none
  operand : Operand := .missing

namespace Level

def comparison? (l : Level) : Option Expr := do
  let e ← l.operand.expr?
  return match l.left with
    | none => e
    | some left => .eq left e

def condition? (l : Level) : Option Expr := do
  let e ← l.comparison?
  return match l.conjunction with
    | none => e
    | some c => .and c e

/-- The members of a list that ends here, behind the ones before. -/
def members? (before : List Expr) (l : Level) : Option (List Expr) :=
  match before, l with
  | [], ⟨none, none, .missing⟩ => some []
  | before, l => l.condition?.map fun e => before ++ [e]

end Level

/-- A list that is being read, and what stands around it. -/
structure OpenList where
  outer : Level
  tested : Expr
  before : List Expr

/-- How far a condition has been read; the innermost list comes first. -/
structure Parsing where
  level : Level := {}
  lists : List OpenList := []

namespace Parsing

/-- Continues with an operand in place of the last one. -/
def goOn (p : Parsing) (o : Operand) : Parsing := { p with level.operand := o }

def step (d : Dialect) (p : Parsing) : Token → Option Parsing
  | .name s =>
    match p.level.operand with
    | .missing => some (p.goOn (.named s))
    | .owned t => some (p.goOn (.known (.column (some t) s)))
    | _ => none
  | .dot =>
    match p.level.operand with
    | .named t => some (p.goOn (.owned t))
    | _ => none
  | .literal l =>
    match p.level.operand with
    | .missing => some (p.goOn (.known (.literal l)))
    | _ => none
  | .equals => do
    let e ← p.level.comparison?
    return { p with level := { p.level with left := some e, operand := .missing } }
  | .keyword .AND => do
    let e ← p.level.condition?
    return { p with level := { conjunction := some e } }
  | .keyword .IN =>
    match membership d with
    | .operand => do
      let e ← p.level.operand.expr?
      return p.goOn (.tested e)
    | _ => do
      let e ← p.level.comparison?
      return { p with level := { p.level with left := none, operand := .tested e } }
  | .openParen =>
    match p.level.operand with
    | .tested e => some ⟨{}, ⟨p.level, e, []⟩ :: p.lists⟩
    | _ => none
  | .comma =>
    match p.lists with
    | l :: lists => do
      let e ← p.level.condition?
      return ⟨{}, { l with before := l.before ++ [e] } :: lists⟩
    | [] => none
  | .closeParen =>
    match p.lists with
    | l :: lists => do
      let members ← p.level.members? l.before
      return ⟨{ l.outer with operand := .known (.isIn l.tested members) }, lists⟩
    | [] => none
  | _ => none

def run (d : Dialect) (p : Parsing) (tokens : List Token) : Option Parsing := tokens.foldlM (step d) p

theorem run_append (d : Dialect) (p : Parsing) (a b : List Token) :
    p.run d (a ++ b) = (p.run d a).bind (run d · b) :=
  List.foldlM_append

theorem run_cons (d : Dialect) (p : Parsing) (t : Token) (rest : List Token) :
    p.run d (t :: rest) = (p.step d t).bind (run d · rest) :=
  List.foldlM_cons

end Parsing

/-- The condition that tokens are grouped to. -/
def grouped? (d : Dialect) (tokens : List Token) : Option Expr := do
  let p ← Parsing.run d {} tokens
  match p.lists with
  | [] => p.level.condition?
  | _ => none

/-- The condition that tokens stand for. -/
def conditionOf? (d : Dialect) (tokens : List Token) : Option Expr :=
  (grouped? d tokens).filter (Expr.allowed d)

/-- The condition that a text stands for. -/
def parse? (d : Dialect) (s : String) : Option Expr := (read? s).bind (conditionOf? d)

/-! ### Reading what fits -/

namespace Expr

variable {d : Dialect} {p : Place} {e : Expr}

/-- A comparison is one part of a conjunction. -/
theorem Fits.join_flat (h : e.Fits d p) (hp : p ≠ .condition) (a : Expr) :
    a.join (e.flat d) = .and a (e.flat d) := by
  induction h with
  | column | literal | isIn | eq => rw [flat, join]; exact nofun
  | and => exact absurd rfl hp
  | comparison _ ih => exact ih nofun
  | condition => exact absurd rfl hp

/-- The conjunction of what was read before and an expression. -/
def behind : Option Expr → Expr → Expr
  | none, e => e
  | some c, e => c.join e

/-- What the reader makes of an expression in a place: it is the operand, or the comparison, or the last part
of the condition. -/
def Read (d : Dialect) (e : Expr) : Place → Prop
  | .operand => ∀ conjunction left lists, ∃ o : Operand, o.expr? = some (e.flat d) ∧
      Parsing.run d ⟨⟨conjunction, left, .missing⟩, lists⟩ (e.read d)
        = some ⟨⟨conjunction, left, o⟩, lists⟩
  | .comparison => ∀ conjunction lists, ∃ left o,
      Level.comparison? ⟨conjunction, left, o⟩ = some (e.flat d) ∧
      Parsing.run d ⟨⟨conjunction, none, .missing⟩, lists⟩ (e.read d)
        = some ⟨⟨conjunction, left, o⟩, lists⟩
  | .condition => ∀ conjunction lists, ∃ l : Level,
      l.condition? = some (behind conjunction (e.flat d)) ∧
      Parsing.run d ⟨⟨conjunction, none, .missing⟩, lists⟩ (e.read d) = some ⟨l, lists⟩

theorem Read.comparison (h : e.Read d .operand) : e.Read d .comparison := by
  intro conjunction lists
  obtain ⟨o, ho, hrun⟩ := h conjunction none lists
  refine ⟨none, o, ?_, hrun⟩
  simp [Level.comparison?, ho]

theorem Read.condition (h : e.Read d .comparison) (hjoin : ∀ a : Expr, a.join (e.flat d) = .and a (e.flat d)) :
    e.Read d .condition := by
  intro conjunction lists
  obtain ⟨left, o, ho, hrun⟩ := h conjunction lists
  refine ⟨_, ?_, hrun⟩
  cases conjunction with
  | none => simp [Level.condition?, ho, behind]
  | some c => simp [Level.condition?, ho, behind, hjoin]

theorem Read.and {left right : Expr} (hleft : left.Read d .condition) (hright : right.Read d .condition) :
    (Expr.and left right).Read d .condition := by
  intro conjunction lists
  obtain ⟨l, hl, hrunLeft⟩ := hleft conjunction lists
  obtain ⟨r, hr, hrunRight⟩ := hright (some (behind conjunction (left.flat d))) lists
  refine ⟨r, ?_, ?_⟩
  · rw [hr, flat]
    cases conjunction with
    | none => rfl
    | some c => rw [behind, behind, behind, join_join]
  · rw [read_and, Parsing.run_append, hrunLeft, Option.bind_some, Parsing.run_cons]
    simpa [Parsing.step, hl] using hrunRight

theorem Read.eq {left right : Expr} (hleft : left.Read d .comparison) (hright : right.Read d .operand) :
    (Expr.eq left right).Read d .comparison := by
  intro conjunction lists
  obtain ⟨l, o, hl, hrunLeft⟩ := hleft conjunction lists
  obtain ⟨r, hr, hrunRight⟩ := hright conjunction (some (left.flat d)) lists
  refine ⟨some (left.flat d), r, ?_, ?_⟩
  · simp [Level.comparison?, hr, flat]
  · rw [read_eq, Parsing.run_append, hrunLeft, Option.bind_some, Parsing.run_cons]
    simpa [Parsing.step, hl] using hrunRight

end Expr

theorem Level.members?_of_condition? {l : Level} {e : Expr} (h : l.condition? = some e)
    (before : List Expr) : l.members? before = some (before ++ [e]) := by
  unfold Level.members?
  split
  · cases h
  · rw [h, Option.map_some]

namespace Parsing

variable {d : Dialect}

/-- Reading the members of a list behind one of them. -/
theorem run_more {rest : List Expr} (hrest : ∀ v ∈ rest, v.Read d .condition) {l : Level} {e : Expr}
    (hl : l.condition? = some e) (outer : Level) (tested : Expr) (before : List Expr)
    (lists : List OpenList) :
    run d ⟨l, ⟨outer, tested, before⟩ :: lists⟩ (Expr.readMore d rest ++ [.closeParen])
      = some ⟨{ outer with operand := .known (.isIn tested (before ++ e :: rest.map (Expr.flat d))) },
        lists⟩ := by
  induction rest generalizing l e before with
  | nil =>
    rw [Expr.readMore_nil, List.nil_append, run_cons]
    simp [step, Level.members?_of_condition? hl, run]
  | cons v rest ih =>
    rw [List.forall_mem_cons] at hrest
    obtain ⟨l', hl', hrun⟩ := hrest.1 none (⟨outer, tested, before ++ [e]⟩ :: lists)
    rw [Expr.readMore_cons, List.cons_append, run_cons]
    have hcomma : step d ⟨l, ⟨outer, tested, before⟩ :: lists⟩ .comma
        = some ⟨{}, ⟨outer, tested, before ++ [e]⟩ :: lists⟩ := by
      simp [step, hl]
    rw [hcomma, Option.bind_some, List.append_assoc, run_append, hrun, Option.bind_some,
      ih hrest.2 hl']
    simp [Expr.behind]

theorem run_list {values : List Expr} (hvalues : ∀ v ∈ values, v.Read d .condition)
    (conjunction left : Option Expr) (tested : Expr) (lists : List OpenList) :
    run d ⟨⟨conjunction, left, .tested tested⟩, lists⟩
        (.openParen :: (Expr.readList d values ++ [.closeParen]))
      = some ⟨⟨conjunction, left, .known (.isIn tested (Expr.flatList d values))⟩, lists⟩ := by
  have hopen : step d ⟨⟨conjunction, left, .tested tested⟩, lists⟩ .openParen
      = some ⟨{}, ⟨⟨conjunction, left, .tested tested⟩, tested, []⟩ :: lists⟩ := rfl
  rw [run_cons, hopen, Option.bind_some, Expr.flatList_eq_map]
  cases values with
  | nil => rfl
  | cons v rest =>
    rw [List.forall_mem_cons] at hvalues
    obtain ⟨l, hl, hrun⟩ := hvalues.1 none (⟨⟨conjunction, left, .tested tested⟩, tested, []⟩ :: lists)
    rw [Expr.readList_cons, List.append_assoc, run_append, hrun, Option.bind_some,
      run_more hvalues.2 hl]
    rfl

end Parsing

namespace Expr

variable {d : Dialect} {p : Place} {e : Expr}

theorem Read.isIn {values : List Expr} (he : e.Read d (membership d))
    (hvalues : ∀ v ∈ values, v.Read d .condition) : (Expr.isIn e values).Read d (membership d) := by
  cases d with
  | sqlite =>
    intro conjunction lists
    obtain ⟨left, o, ho, hrun⟩ := he conjunction lists
    refine ⟨none, .known ((Expr.isIn e values).flat .sqlite), rfl, ?_⟩
    have hin : Parsing.step .sqlite ⟨⟨conjunction, left, o⟩, lists⟩ (.keyword .IN)
        = some ⟨⟨conjunction, none, .tested (e.flat .sqlite)⟩, lists⟩ := by
      simp [Parsing.step, membership, ho]
    rw [read_isIn, Parsing.run_append, hrun, Option.bind_some, Parsing.run_cons, hin, Option.bind_some,
      Parsing.run_list hvalues, flat]
  | postgres =>
    intro conjunction left lists
    obtain ⟨o, ho, hrun⟩ := he conjunction left lists
    refine ⟨.known ((Expr.isIn e values).flat .postgres), rfl, ?_⟩
    have hin : Parsing.step .postgres ⟨⟨conjunction, left, o⟩, lists⟩ (.keyword .IN)
        = some ⟨⟨conjunction, left, .tested (e.flat .postgres)⟩, lists⟩ := by
      simp [Parsing.step, membership, ho, Parsing.goOn]
    rw [read_isIn, Parsing.run_append, hrun, Option.bind_some, Parsing.run_cons, hin, Option.bind_some,
      Parsing.run_list hvalues, flat]

/-- An expression that fits a place is read there. -/
theorem Fits.read (h : e.Fits d p) : e.Read d p := by
  induction h with
  | column table column =>
    cases table with
    | none =>
      intro conjunction left lists
      refine ⟨.named column, rfl, ?_⟩
      rw [read_column_none]
      rfl
    | some t =>
      intro conjunction left lists
      refine ⟨.known (.column (some t) column), rfl, ?_⟩
      rw [read_column_some]
      rfl
  | literal l =>
    intro conjunction left lists
    refine ⟨.known (.literal (l.stored d)), rfl, ?_⟩
    rw [read_literal]
    rfl
  | isIn hp _ _ ihe ihvalues =>
    subst hp
    exact ihe.isIn ihvalues
  | eq _ _ ihleft ihright => exact ihleft.eq ihright
  | and _ _ ihleft ihright => exact ihleft.and ihright
  | comparison _ ih => exact ih.comparison
  | condition he ih => exact ih.condition (he.join_flat nofun)

theorem Fits.grouped? (h : e.Fits d .condition) : grouped? d (e.read d) = some (e.flat d) := by
  obtain ⟨l, hl, hrun⟩ := h.read none []
  rw [Sql.grouped?]
  change (Parsing.run d ⟨⟨none, none, .missing⟩, []⟩ (e.read d)).bind _ = _
  rw [hrun]
  exact hl

theorem Fits.conditionOf? (h : e.Fits d .condition) (hd : e.allowed d) :
    conditionOf? d (e.read d) = some (e.flat d) := by
  rw [Sql.conditionOf?, h.grouped?, Option.filter_some, if_pos ((allowed_flat d e).trans hd)]

end Expr

/-! ### What is read fits -/

section Fitting

variable {d : Dialect}

/-- Whether an operand fits behind what stands to its left. -/
def Operand.Fits (d : Dialect) (left : Option Expr) : Operand → Prop
  | .known e => e.Fits d .operand ∨ e.Fits d (membership d) ∧ left = none
  | .tested e => e.Fits d (membership d) ∧ (membership d = .operand ∨ left = none)
  | _ => True

structure Level.Fits (d : Dialect) (l : Level) : Prop where
  conjunction : ∀ e ∈ l.conjunction, e.Fits d .condition
  left : ∀ e ∈ l.left, e.Fits d .comparison
  operand : l.operand.Fits d l.left

structure OpenList.Fits (d : Dialect) (l : OpenList) : Prop where
  outer : l.outer.Fits d
  tested : (Operand.tested l.tested).Fits d l.outer.left
  before : ∀ e ∈ l.before, e.Fits d .condition

structure Parsing.Fits (d : Dialect) (p : Parsing) : Prop where
  level : p.level.Fits d
  lists : ∀ l ∈ p.lists, l.Fits d

theorem Level.fits_empty : Level.Fits d {} := ⟨nofun, nofun, trivial⟩

theorem Expr.Fits.of_membership {e : Expr} (h : e.Fits d (membership d)) : e.Fits d .comparison := by
  cases d with
  | sqlite => exact h
  | postgres => exact .comparison h

theorem Operand.Fits.expr? {left : Option Expr} {o : Operand} (h : o.Fits d left) {e : Expr}
    (he : o.expr? = some e) : e.Fits d .operand ∨ e.Fits d (membership d) ∧ left = none := by
  cases o with
  | named s =>
    cases he
    exact .inl (.column none s)
  | known e' =>
    cases he
    exact h
  | _ => cases he

theorem Level.Fits.comparison? {l : Level} (h : l.Fits d) {e : Expr} (he : l.comparison? = some e) :
    e.Fits d .comparison := by
  obtain ⟨conjunction, left, o⟩ := l
  obtain ⟨operand, ho, he⟩ := Option.bind_eq_some_iff.mp he
  have hoperand := h.operand.expr? ho
  cases left with
  | none =>
    cases he
    exact hoperand.elim .comparison fun h => h.1.of_membership
  | some first =>
    cases he
    obtain hoperand | ⟨-, hleft⟩ := hoperand
    · exact .eq (h.left first rfl) hoperand
    · cases hleft

theorem Level.Fits.condition? {l : Level} (h : l.Fits d) {e : Expr} (he : l.condition? = some e) :
    e.Fits d .condition := by
  obtain ⟨conjunction, left, o⟩ := l
  obtain ⟨last, hlast, he⟩ := Option.bind_eq_some_iff.mp he
  have hcomparison := h.comparison? hlast
  cases conjunction with
  | none =>
    cases he
    exact .condition hcomparison
  | some c =>
    cases he
    exact .and (h.conjunction c rfl) (.condition hcomparison)

theorem Level.Fits.members? {l : Level} (h : l.Fits d) {before members : List Expr}
    (hbefore : ∀ e ∈ before, e.Fits d .condition) (hmembers : l.members? before = some members) :
    ∀ e ∈ members, e.Fits d .condition := by
  unfold Level.members? at hmembers
  split at hmembers
  · cases hmembers
    exact nofun
  · obtain ⟨e, he, rfl⟩ := Option.map_eq_some_iff.mp hmembers
    intro e' he'
    rcases List.mem_append.mp he' with he' | he'
    · exact hbefore e' he'
    · obtain rfl := List.mem_singleton.mp he'
      exact h.condition? he

/-- A list and what it is tested against fit where the test stands. -/
theorem Operand.Fits.isIn {left : Option Expr} {e : Expr} (h : (Operand.tested e).Fits d left)
    {values : List Expr} (hvalues : ∀ v ∈ values, v.Fits d .condition) :
    (Operand.known (.isIn e values)).Fits d left := by
  obtain ⟨he, hplace⟩ := h
  have hin := Expr.Fits.isIn rfl he hvalues
  cases d with
  | sqlite => exact .inr ⟨hin, hplace.resolve_left nofun⟩
  | postgres => exact .inl hin

namespace Parsing

variable {p p' : Parsing}

theorem Fits.goOn (h : p.Fits d) {o : Operand} (ho : o.Fits d p.level.left) : (p.goOn o).Fits d :=
  ⟨⟨h.level.conjunction, h.level.left, ho⟩, h.lists⟩

/-- An IN takes the operand in PostgreSQL, and all of the comparison in SQLite. -/
theorem Fits.step_in (h : p.Fits d) (hp' : p.step d (.keyword .IN) = some p') : p'.Fits d := by
  cases d with
  | sqlite =>
    obtain ⟨e, he, hp'⟩ := Option.bind_eq_some_iff.mp hp'
    cases hp'
    exact ⟨⟨h.level.conjunction, nofun, h.level.comparison? he, .inr rfl⟩, h.lists⟩
  | postgres =>
    obtain ⟨e, he, hp'⟩ := Option.bind_eq_some_iff.mp hp'
    cases hp'
    exact h.goOn ⟨(h.level.operand.expr? he).elim id And.left, .inl rfl⟩

theorem Fits.step (h : p.Fits d) {t : Token} (hp' : p.step d t = some p') : p'.Fits d := by
  cases t with
  | keyword k =>
    cases k with
    | AND =>
      obtain ⟨e, he, hp'⟩ := Option.bind_eq_some_iff.mp hp'
      cases hp'
      refine ⟨⟨?_, nofun, trivial⟩, h.lists⟩
      rintro _ ⟨⟩
      exact h.level.condition? he
    | IN => exact h.step_in hp'
    | _ => cases hp'
  | name s =>
    simp only [Parsing.step] at hp'
    split at hp' <;> cases hp'
    · exact h.goOn trivial
    · exact h.goOn (.inl (.column ..))
  | dot =>
    simp only [Parsing.step] at hp'
    split at hp' <;> cases hp'
    exact h.goOn trivial
  | literal l =>
    simp only [Parsing.step] at hp'
    split at hp' <;> cases hp'
    exact h.goOn (.inl (.literal l))
  | equals =>
    obtain ⟨e, he, hp'⟩ := Option.bind_eq_some_iff.mp hp'
    cases hp'
    refine ⟨⟨h.level.conjunction, ?_, trivial⟩, h.lists⟩
    rintro _ ⟨⟩
    exact h.level.comparison? he
  | openParen =>
    simp only [Parsing.step] at hp'
    split at hp' <;> cases hp'
    case h_1 e he =>
      refine ⟨Level.fits_empty, ?_⟩
      rw [List.forall_mem_cons]
      exact ⟨⟨h.level, he ▸ h.level.operand, nofun⟩, h.lists⟩
  | comma =>
    simp only [Parsing.step] at hp'
    split at hp'
    case h_2 => cases hp'
    case h_1 l lists hlists =>
      obtain ⟨e, he, hp'⟩ := Option.bind_eq_some_iff.mp hp'
      cases hp'
      have hall := h.lists
      rw [hlists, List.forall_mem_cons] at hall
      refine ⟨Level.fits_empty, ?_⟩
      rw [List.forall_mem_cons]
      refine ⟨⟨hall.1.outer, hall.1.tested, ?_⟩, hall.2⟩
      intro v hv
      rcases List.mem_append.mp hv with hv | hv
      · exact hall.1.before v hv
      · obtain rfl := List.mem_singleton.mp hv
        exact h.level.condition? he
  | closeParen =>
    simp only [Parsing.step] at hp'
    split at hp'
    case h_2 => cases hp'
    case h_1 l lists hlists =>
      obtain ⟨members, hmembers, hp'⟩ := Option.bind_eq_some_iff.mp hp'
      cases hp'
      have hall := h.lists
      rw [hlists, List.forall_mem_cons] at hall
      have hvalues := h.level.members? hall.1.before hmembers
      exact ⟨⟨hall.1.outer.conjunction, hall.1.outer.left, hall.1.tested.isIn hvalues⟩, hall.2⟩
  | _ => cases hp'

theorem Fits.run (h : p.Fits d) {tokens : List Token} (hp' : p.run d tokens = some p') : p'.Fits d := by
  induction tokens generalizing p with
  | nil =>
    cases hp'
    exact h
  | cons t rest ih =>
    rw [run_cons] at hp'
    obtain ⟨next, hnext, hp'⟩ := Option.bind_eq_some_iff.mp hp'
    exact ih (h.step hnext) hp'

end Parsing

theorem fits_of_grouped? {tokens : List Token} {e : Expr} (h : grouped? d tokens = some e) :
    e.Fits d .condition := by
  obtain ⟨p, hp, h⟩ := Option.bind_eq_some_iff.mp h
  have hfits : p.Fits d := Parsing.Fits.run ⟨Level.fits_empty, List.forall_mem_nil _⟩ hp
  split at h
  · exact hfits.level.condition? h
  · cases h

/-! ### Reading what was written -/

namespace Expr

theorem fits_eq_iff {p : Place} {left right : Expr} : (eq left right).Fits d p ↔
    p ≠ .operand ∧ left.Fits d .comparison ∧ right.Fits d .operand := by
  constructor
  · intro h
    cases h with
    | eq hleft hright => exact ⟨nofun, hleft, hright⟩
    | comparison he => cases he
    | condition he =>
      cases he with
      | eq hleft hright => exact ⟨nofun, hleft, hright⟩
      | comparison he => cases he
  · rintro ⟨hp, hleft, hright⟩
    cases p with
    | operand => exact absurd rfl hp
    | comparison => exact .eq hleft hright
    | condition => exact .condition (.eq hleft hright)

theorem fits_and_iff {p : Place} {left right : Expr} : (and left right).Fits d p ↔
    p = .condition ∧ left.Fits d .condition ∧ right.Fits d .condition := by
  constructor
  · intro h
    cases h with
    | and hleft hright => exact ⟨rfl, hleft, hright⟩
    | comparison he => cases he
    | condition he =>
      cases he with
      | comparison he => cases he
  · rintro ⟨rfl, hleft, hright⟩
    exact .and hleft hright

theorem fits_isIn_iff {p : Place} {e : Expr} {values : List Expr} : (isIn e values).Fits d p ↔
    (p = .operand → membership d = .operand) ∧ e.Fits d (membership d) ∧
      ∀ v ∈ values, v.Fits d .condition := by
  constructor
  · intro h
    cases h with
    | isIn hp he hvalues => exact ⟨fun h => hp ▸ h, hp ▸ he, hvalues⟩
    | comparison he =>
      cases he with
      | isIn hp he hvalues => exact ⟨nofun, hp ▸ he, hvalues⟩
    | condition he =>
      cases he with
      | isIn hp he hvalues => exact ⟨nofun, hp ▸ he, hvalues⟩
      | comparison he =>
        cases he with
        | isIn hp he hvalues => exact ⟨nofun, hp ▸ he, hvalues⟩
  · rintro ⟨hp, he, hvalues⟩
    have hin := Fits.isIn rfl he hvalues
    cases p with
    | operand => exact hp rfl ▸ hin
    | comparison => exact hin.of_membership
    | condition => exact .condition hin.of_membership

theorem fits_join {p : Place} {a : Expr} : (b : Expr) → (a.join b).Fits d p →
    p = .condition ∧ a.Fits d .condition ∧ b.Fits d .condition
  | .and right last, h => by
    rw [join, fits_and_iff] at h
    obtain ⟨rfl, hjoin, hlast⟩ := h
    obtain ⟨-, ha, hright⟩ := fits_join right hjoin
    exact ⟨rfl, ha, .and hright hlast⟩
  | .column _ _, h => fits_and_iff.mp h
  | .literal _, h => fits_and_iff.mp h
  | .eq _ _, h => fits_and_iff.mp h
  | .isIn _ _, h => fits_and_iff.mp h

mutual

/-- An expression fits where the one that its text stands for does. -/
theorem fits_of_flat {p : Place} : (e : Expr) → (e.flat d).Fits d p → e.Fits d p
  | .column t c, h => by rwa [flat] at h
  | .literal l, _ => by
    cases p with
    | operand => exact .literal l
    | comparison => exact .comparison (.literal l)
    | condition => exact .condition (.comparison (.literal l))
  | .eq left right, h => by
    rw [flat, fits_eq_iff] at h
    obtain ⟨hp, hleft, hright⟩ := h
    exact fits_eq_iff.mpr ⟨hp, fits_of_flat left hleft, fits_of_flat right hright⟩
  | .and left right, h => by
    rw [flat] at h
    obtain ⟨rfl, hleft, hright⟩ := fits_join _ h
    exact .and (fits_of_flat left hleft) (fits_of_flat right hright)
  | .isIn e values, h => by
    rw [flat, fits_isIn_iff] at h
    obtain ⟨hp, he, hvalues⟩ := h
    exact fits_isIn_iff.mpr ⟨hp, fits_of_flat e he, fits_of_flatList values hvalues⟩

theorem fits_of_flatList : (l : List Expr) → (∀ v ∈ flatList d l, v.Fits d .condition) →
    ∀ v ∈ l, v.Fits d .condition
  | [], _ => nofun
  | e :: rest, h => by
    rw [flatList, List.forall_mem_cons] at h
    rw [List.forall_mem_cons]
    exact ⟨fits_of_flat e h.1, fits_of_flatList rest h.2⟩

end

theorem grouped?_read_iff {e : Expr} :
    Sql.grouped? d (e.read d) = some (e.flat d) ↔ e.Fits d .condition :=
  ⟨fun h => fits_of_flat e (fits_of_grouped? h), Fits.grouped?⟩

theorem conditionOf?_read_iff {e : Expr} : Sql.conditionOf? d (e.read d) = some (e.flat d) ↔
    e.Fits d .condition ∧ e.allowed d := by
  rw [Sql.conditionOf?, Option.filter_eq_some_iff, grouped?_read_iff, allowed_flat]

theorem read?_render (d : Dialect) (e : Expr) : read? (e.render d) = some (e.read d) :=
  read?_of_reads (reads_expr e)

/-- The text of a condition is read as the condition exactly if no parentheses are missing in it and the
dialect allows it. -/
theorem parse?_render_iff {e : Expr} : parse? d (e.render d) = some (e.flat d) ↔
    e.Fits d .condition ∧ e.allowed d := by
  rw [parse?, read?_render, Option.bind_some]
  exact conditionOf?_read_iff

end Expr

end Fitting

example : parse? .sqlite "5 = 5 = 1" = some (.eq (.eq (.literal (.int 5)) (.literal (.int 5)))
    (.literal (.int 1))) := by
  rfl

example : parse? .postgres "5 = 5 = 1" = none := by
  rfl

end NestedRows.Sql
