import NestedRows.Query.Assemble
import Mathlib.Data.List.Basic
/-!
# What a statement answers

The meaning of a statement over the rows of a database: the rows of the table, each continued by its
partners in the joined tables or by nulls if there are none, restricted by the condition, put in order
and shown column by column. Comparisons have three outcomes, since nothing is known of null.

Rows that the order does not tell apart keep the order of the table. So restricting and ordering may
change places (`filter_mergeSort`).
-/

namespace NestedRows

namespace Sql

namespace Literal

/-- Whether two values are the same number, text or truth value. The two zeros are one number. -/
def same : Literal → Literal → Bool
  | .float x, .float y => x == y || x.code == 0 && y.code == 0
  | v, w => v == w

/-- The outcome of comparing two values: a truth value, or null if one of them is null. -/
def equals : Literal → Literal → Literal
  | .null, _ => .null
  | _, .null => .null
  | v, w => .bool (v.same w)

/-- Whether two values are known to be equal. -/
def agrees (v w : Literal) : Bool := v.equals w == .bool true

def both : Literal → Literal → Literal
  | .bool false, _ => .bool false
  | _, .bool false => .bool false
  | .bool true, .bool true => .bool true
  | _, _ => .null

def either : Literal → Literal → Literal
  | .bool true, _ => .bool true
  | _, .bool true => .bool true
  | .bool false, .bool false => .bool false
  | _, _ => .null

def toJson : Literal → Json
  | .int n => .int n
  | .float x => .ofFloat x
  | .text s => .str s
  | .bool b => .bool b
  | .null => .null

/-- The value after a conversion. What is of the wanted kind stays as it is. -/
def convert : Option ScalarCast → Literal → Literal
  | some .float, .int n => .float (Binary64.ofInt n)
  | some .text, .int n => .text (String.ofList (intDigits n))
  | some .text, .bool b => .text (if b then "true" else "false")
  | _, v => v

end Literal

/-- A row of a table: the values of its columns. -/
abbrev Record := String → Literal

def Record.nulls : Record := fun _ => .null

/-- The rows of a database, and the order of its values. -/
structure Database where
  rows : Option String → String → List Record
  /-- Whether a value may stand before another. -/
  le : Literal → Literal → Bool
  le_trans : ∀ u v w, le u v = true → le v w = true → le u w = true
  le_total : ∀ v w, (le v w || le w v) = true

/-- The rows that the names of a statement stand for. -/
abbrev Scope := Option String → Record

def Scope.bind (scope : Scope) (name : Option String) (r : Record) : Scope :=
  fun other => if other = name then r else scope other

def TableRef.scopeName (t : TableRef) : Option String := some (t.aliasName.getD t.table)

mutual

def Expr.eval (scope : Scope) : Expr → Literal
  | .column table column => scope table column
  | .literal l => l
  | .eq left right => (left.eval scope).equals (right.eval scope)
  | .and left right => (left.eval scope).both (right.eval scope)
  | .isIn e values => evalIn scope (e.eval scope) values

/-- The outcome of comparing a value with each of the given ones. -/
def evalIn (scope : Scope) (v : Literal) : List Expr → Literal
  | [] => .bool false
  | e :: rest => (v.equals (e.eval scope)).either (evalIn scope v rest)

end

/-- Whether a condition is known to hold. -/
def Expr.holds (e : Expr) (scope : Scope) : Bool := e.eval scope == .bool true

/-- Whether a list of values may stand before another; the first difference decides. -/
def Database.leAll (D : Database) : List Literal → List Literal → Bool
  | v :: vs, w :: ws => D.le v w && (!D.le w v || D.leAll vs ws)
  | _, _ => true

/-- The scopes that continue a scope by a joined table. -/
def Join.scopes (D : Database) (j : Join) (scope : Scope) : List Scope :=
  let partners := ((D.rows j.table.namespaceName j.table.table).map
    (scope.bind j.table.scopeName)).filter j.on.holds
  if partners.isEmpty then [scope.bind j.table.scopeName .nulls] else partners

namespace Query

def sourceScopes (D : Database) (q : Query) : List Scope :=
  match q.source with
  | none => [fun _ => .nulls]
  | some t => (D.rows t.namespaceName t.table).map (Scope.bind (fun _ => .nulls) t.scopeName)

def joinedScopes (D : Database) (q : Query) : List Scope :=
  q.joins.foldl (fun scopes j => scopes.flatMap (j.scopes D)) (q.sourceScopes D)

def keeps (q : Query) (scope : Scope) : Bool := q.condition.all fun e => e.holds scope

def keptScopes (D : Database) (q : Query) : List Scope := (q.joinedScopes D).filter q.keeps

def scopes (D : Database) (q : Query) : List Scope :=
  (q.keptScopes D).mergeSort fun a b =>
    D.leAll (q.orderBy.map (Expr.eval a)) (q.orderBy.map (Expr.eval b))

def cell (scope : Scope) (item : SelectItem) : String × Json :=
  (item.aliasName.getD "", ((item.expr.eval scope).convert item.cast).toJson)

/-- The rows that the statement answers. -/
def answer (D : Database) (q : Query) : List Row :=
  (q.scopes D).map fun scope => q.select.map (cell scope)

end Query

end Sql

/-! ### Restricting and ordering -/

/-- A list is split in one way only into a part that passes a test and one that does not. -/
theorem eq_of_append_eq {α : Type} {p : α → Bool} {l₁ l₂ m₁ m₂ : List α} (h : l₁ ++ l₂ = m₁ ++ m₂)
    (hl₁ : ∀ a ∈ l₁, p a = true) (hl₂ : ∀ a ∈ l₂, p a = false) (hm₁ : ∀ a ∈ m₁, p a = true)
    (hm₂ : ∀ a ∈ m₂, p a = false) : l₁ = m₁ ∧ l₂ = m₂ := by
  have hfilter : ∀ {x y : List α}, (∀ a ∈ x, p a = true) → (∀ a ∈ y, p a = false) →
      (x ++ y).filter p = x := by
    intro x y hx hy
    rw [List.filter_append, List.filter_eq_self.mpr hx, List.filter_eq_nil_iff.mpr, List.append_nil]
    exact fun a ha => by simp [hy a ha]
  have hfirst : l₁ = m₁ := by rw [← hfilter hl₁ hl₂, h, hfilter hm₁ hm₂]
  subst hfirst
  exact ⟨rfl, List.append_cancel_left h⟩

/-- A stable order of the elements that pass a test is the stable order of all, restricted to them. -/
theorem filter_mergeSort {α : Type} {le : α → α → Bool}
    (htrans : ∀ a b c, le a b = true → le b c = true → le a c = true)
    (htotal : ∀ a b, (le a b || le b a) = true) (p : α → Bool) (l : List α) :
    (l.mergeSort le).filter p = (l.filter p).mergeSort le := by
  have hbehind : ∀ {m x y : List α} {a : α}, m.mergeSort le = x ++ a :: y → ∀ b ∈ y, le a b = true := by
    intro m x y a h b hb
    have hsorted := List.pairwise_mergeSort htrans htotal m
    rw [h, List.pairwise_append] at hsorted
    exact (List.pairwise_cons.mp hsorted.2.1).1 b hb
  induction l with
  | nil => simp
  | cons a rest ih =>
    obtain ⟨x, y, hall, hrest, hx⟩ := List.mergeSort_cons htrans htotal a rest
    rw [hrest, List.filter_append] at ih
    rw [hall, List.filter_append, List.filter_cons, List.filter_cons]
    split
    case isFalse => exact ih
    case isTrue =>
      obtain ⟨x', y', hall', hrest', hx'⟩ := List.mergeSort_cons htrans htotal a (rest.filter p)
      have hy := hbehind hall
      have hy' := hbehind hall'
      obtain ⟨hfirst, hsecond⟩ := eq_of_append_eq (p := fun b => !le a b) (ih.trans hrest')
        (fun b hb => hx b (List.mem_of_mem_filter hb))
        (fun b hb => by simp [hy b (List.mem_of_mem_filter hb)]) hx' (fun b hb => by simp [hy' b hb])
      rw [hall', hfirst, hsecond]

end NestedRows
