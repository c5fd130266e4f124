import NestedRows.Proofs.Query.Alias
import NestedRows.Proofs.Query.Plan
import Mathlib.Data.List.Nodup
/-!
# How the fields of a plan are emitted

Emitting a list of fields follows rules (`Plan.Emits`), one for each kind of field: a scalar and a step
to one row go on with the same statement, and a step to many rows starts a statement of its own under
the next alias. What holds of all statements of a query is proved by induction on these rules.

The main invariant is that a statement under way is in order (`Emission.Scoped`): its tables have
aliases of their own, all of them given out before, every join follows a foreign key from an earlier
table, and every selected column belongs to one of the tables.
-/

namespace NestedRows

def Plan.Column.output (c : Plan.Column) (aliasName : String) : OutputColumn :=
  ⟨aliasName, c.name, c.fieldType⟩

namespace Emission

/-- A statement at its beginning. If it is restricted to the values of a column, this is selected
first. -/
def start (issued : Nat) (filter : Option OutputColumn) : Emission :=
  { issued, columns := filter.toList }

/-- The statement goes on after one more statement below it, up to whose end `issued` aliases are in
use. -/
def after (e : Emission) (issued : Nat) : Emission :=
  { e with issued, subFetches := e.subFetches + 1 }

theorem issued_select (e : Emission) (c : OutputColumn) : (e.select c).issued = e.issued := by
  rw [select]
  split <;> rfl

theorem subFetches_select (e : Emission) (c : OutputColumn) :
    (e.select c).subFetches = e.subFetches := by
  rw [select]
  split <;> rfl

end Emission

namespace Plan

/-- The rules by which fields of the table called `aliasName` are emitted. -/
inductive Emits (namespaceName : Option String) :
    String → List Field → Emission → List Component → Emission → Prop
  | nil {aliasName : String} {e : Emission} : Emits namespaceName aliasName [] e [] e
  | scalar {aliasName field : String} {column : Column} {rest : List Field} {e e' : Emission}
      {components : List Component}
      (hrest : Emits namespaceName aliasName rest (e.select (column.output aliasName)) components e') :
      Emits namespaceName aliasName (.scalar field column :: rest) e
        (.row field (column.output aliasName).name :: components) e'
  | one {aliasName field localKey : String} {target : Visit} {remote : Column}
      {children rest : List Field} {e below e' : Emission} {components more : List Component}
      (hchildren : Emits namespaceName (aliasOf e.issued) children
        ((e.join aliasName localKey target.table remote.name).select (remote.output (aliasOf e.issued)))
        components below)
      (hrest : Emits namespaceName aliasName rest below more e') :
      Emits namespaceName aliasName (.one field target localKey remote children :: rest) e
        (.one field (remote.output (aliasOf e.issued)).name components :: more) e'
  | many {aliasName field : String} {target : Visit} {parent remote : Column}
      {children rest : List Field} {e below e' : Emission} {components more : List Component}
      (hchildren : Emits namespaceName (aliasOf e.issued) children
        (.start (e.issued + 1) (some (remote.output (aliasOf e.issued)))) components below)
      (hrest : Emits namespaceName aliasName rest
        ((e.select (parent.output aliasName)).after below.issued) more e') :
      Emits namespaceName aliasName (.many field target parent remote children :: rest) e
        (.many field (parent.output aliasName).name e.subFetches
          (below.fetch namespaceName target (aliasOf e.issued) (some (remote.output (aliasOf e.issued))))
          components :: more) e'

mutual

theorem emits_emitField {namespaceName : Option String} {aliasName : String} : (f : Field) →
    {rest : List Field} → {e e' : Emission} → {components : List Component} →
    Emits namespaceName aliasName rest (emitField namespaceName aliasName f e).2 components e' →
    Emits namespaceName aliasName (f :: rest) e
      ((emitField namespaceName aliasName f e).1 :: components) e'
  | .scalar field column, rest, e, e', components, hrest => by
    rw [emitField] at hrest ⊢
    exact .scalar hrest
  | .one field target localKey remote children, rest, e, e', components, hrest => by
    rw [emitField] at hrest ⊢
    exact .one (emits_emitFields children) hrest
  | .many field target parent remote children, rest, e, e', components, hrest => by
    have hissued := Emission.issued_select e (parent.output aliasName)
    have hsubFetches := Emission.subFetches_select e (parent.output aliasName)
    rw [emitField] at hrest ⊢
    simp only [Column.output] at hissued hsubFetches
    simp only [hissued] at hrest ⊢
    rw [hsubFetches]
    exact .many (emits_emitFields children) hrest

theorem emits_emitFields {namespaceName : Option String} {aliasName : String} :
    (l : List Field) → {e : Emission} →
    Emits namespaceName aliasName l e (emitFields namespaceName aliasName l e).1
      (emitFields namespaceName aliasName l e).2
  | [], e => by
    rw [emitFields]
    exact .nil
  | f :: rest, e => by
    rw [emitFields]
    exact emits_emitField f (emits_emitFields rest)

end

end Plan

/-- A condition on the keys changes nothing but the condition. -/
theorem restricted_eq (f : Fetch) (keys : List Sql.Literal) : ∃ condition,
    f.restricted keys = { f.query with condition } ∧
      ∀ e ∈ condition, ∃ c ∈ f.filter, e = .isIn c.expr (keys.map .literal) := by
  rw [Fetch.restricted]
  cases hfilter : f.filter with
  | none => exact ⟨none, rfl, by simp⟩
  | some c => exact ⟨_, rfl, fun e he => ⟨c, rfl, (Option.mem_some.mp he).symm⟩⟩

/-! ### Statements only grow -/

namespace Emission

/-- `e'` goes on where `e` stopped. -/
structure Extends (e e' : Emission) : Prop where
  issued : e.issued ≤ e'.issued
  columns : e.columns <+: e'.columns
  joins : e.joins <+: e'.joins
  subFetches : e.subFetches ≤ e'.subFetches

theorem Extends.refl (e : Emission) : e.Extends e :=
  ⟨Nat.le_refl _, List.prefix_rfl, List.prefix_rfl, Nat.le_refl _⟩

theorem Extends.trans {a b c : Emission} (h : a.Extends b) (h' : b.Extends c) : a.Extends c :=
  ⟨h.issued.trans h'.issued, h.columns.trans h'.columns, h.joins.trans h'.joins,
    h.subFetches.trans h'.subFetches⟩

theorem extends_select (e : Emission) (c : OutputColumn) : e.Extends (e.select c) := by
  rw [select]
  split
  · exact .refl e
  · exact ⟨Nat.le_refl _, List.prefix_append _ _, List.prefix_rfl, Nat.le_refl _⟩

theorem extends_join (e : Emission) (owner localKey table remoteKey : String) :
    e.Extends (e.join owner localKey table remoteKey) :=
  ⟨Nat.le_succ _, List.prefix_rfl, List.prefix_append _ _, Nat.le_refl _⟩

theorem extends_after (e : Emission) {issued : Nat} (h : e.issued ≤ issued) :
    e.Extends (e.after issued) :=
  ⟨h, List.prefix_rfl, List.prefix_rfl, Nat.le_succ _⟩

end Emission

theorem Plan.Emits.extends {namespaceName : Option String} {aliasName : String} {fields : List Field}
    {e e' : Emission} {components : List Component}
    (h : Emits namespaceName aliasName fields e components e') : e.Extends e' := by
  induction h with
  | nil => exact .refl _
  | scalar _ ih => exact (Emission.extends_select _ _).trans ih
  | one _ _ ihchildren ih =>
    exact (Emission.extends_join _ _ _ _ _).trans
      ((Emission.extends_select _ _).trans (ihchildren.trans ih))
  | @many aliasName _ _ parent _ _ _ e _ _ _ _ _ _ ihchildren ih =>
    have hissued := ihchildren.issued
    refine (Emission.extends_select e (parent.output aliasName)).trans
      ((Emission.extends_after _ ?_).trans ih)
    rw [Emission.issued_select]
    exact (Nat.le_succ _).trans hissued

/-! ### Tables and columns of a statement -/

/-- The column belongs to one of the given tables, which are listed with their aliases. -/
def OutputColumn.In (c : OutputColumn) (s : Schema) (tables : List (String × String)) : Prop :=
  ∃ table, (c.aliasName, table) ∈ tables ∧ ∃ k, s.Has table c.column k ∧ k.fieldType = c.fieldType

theorem OutputColumn.In.mono {c : OutputColumn} {s : Schema} {tables tables' : List (String × String)}
    (h : c.In s tables) (hsub : tables ⊆ tables') : c.In s tables' := by
  obtain ⟨table, hmem, hk⟩ := h
  exact ⟨table, hsub hmem, hk⟩

theorem Plan.Column.In.output {c : Plan.Column} {s : Schema} {table aliasName : String}
    {tables : List (String × String)} (h : c.In s table) (hmem : (aliasName, table) ∈ tables) :
    (c.output aliasName).In s tables :=
  ⟨table, hmem, h⟩

def JoinStep.entry (j : JoinStep) : String × String := (j.aliasName, j.table)

def JoinStep.From (j : JoinStep) (s : Schema) (tables : List (String × String)) : Prop :=
  ∃ table, (j.owner, table) ∈ tables ∧ s.References table j.localKey j.table j.remoteKey

/-- Each join starts from one of the given tables or from a table joined before it. -/
def Chained (s : Schema) : List (String × String) → List JoinStep → Prop
  | _, [] => True
  | tables, j :: rest => j.From s tables ∧ Chained s (tables ++ [j.entry]) rest

theorem chained_append {s : Schema} {tables : List (String × String)} {joins more : List JoinStep} :
    Chained s tables (joins ++ more) ↔
      Chained s tables joins ∧ Chained s (tables ++ joins.map JoinStep.entry) more := by
  induction joins generalizing tables with
  | nil => simp [Chained]
  | cons j rest ih =>
    simp only [List.cons_append, Chained, ih, List.map_cons, List.append_assoc, List.nil_append,
      and_assoc]

namespace Emission

/-- The tables of a statement with their aliases; `root` is the one that it starts from. -/
def tables (e : Emission) (root : String × String) : List (String × String) :=
  root :: e.joins.map JoinStep.entry

structure Scoped (s : Schema) (root : String × String) (e : Emission) : Prop where
  numbered : ∀ t ∈ e.tables root, ∃ n, n < e.issued ∧ t.1 = aliasOf n
  distinct : ((e.tables root).map Prod.fst).Nodup
  columns : ∀ c ∈ e.columns, c.In s (e.tables root)
  names : (e.columns.map OutputColumn.name).Nodup
  joins : Chained s [root] e.joins

variable {s : Schema} {root : String × String} {e : Emission}

theorem Extends.tables_subset {e' : Emission} (h : e.Extends e') : e.tables root ⊆ e'.tables root :=
  List.cons_subset_cons _ (List.map_subset _ h.joins.subset)

theorem Extends.names_subset {e' : Emission} (h : e.Extends e') :
    e.columns.map OutputColumn.name ⊆ e'.columns.map OutputColumn.name :=
  List.map_subset _ h.columns.subset

theorem tables_select (e : Emission) (c : OutputColumn) : (e.select c).tables root = e.tables root := by
  rw [select]
  split <;> rfl

theorem tables_join (e : Emission) (owner localKey table remoteKey : String) :
    (e.join owner localKey table remoteKey).tables root
      = e.tables root ++ [(aliasOf e.issued, table)] := by
  simp [tables, join, JoinStep.entry]

theorem name_mem_select (e : Emission) (c : OutputColumn) :
    c.name ∈ (e.select c).columns.map OutputColumn.name := by
  rw [select]
  split
  case isTrue h =>
    obtain ⟨d, hd, hname⟩ := List.any_eq_true.mp h
    exact List.mem_map.mpr ⟨d, hd, of_decide_eq_true hname⟩
  case isFalse => simp

theorem scoped_start {n : Nat} {table : String} {filter : Option OutputColumn}
    (hfilter : ∀ c ∈ filter, c.In s [(aliasOf n, table)]) :
    (start (n + 1) filter).Scoped s (aliasOf n, table) where
  numbered t ht := by
    obtain rfl := List.mem_singleton.mp ht
    exact ⟨n, Nat.lt_succ_self n, rfl⟩
  distinct := List.nodup_singleton _
  columns c hc := hfilter c (Option.mem_toList.mp hc)
  names := by cases filter <;> simp [start]
  joins := trivial

theorem Scoped.select (h : e.Scoped s root) {c : OutputColumn} (hc : c.In s (e.tables root)) :
    (e.select c).Scoped s root := by
  constructor
  case numbered => rw [tables_select, issued_select]; exact h.numbered
  case distinct => rw [tables_select]; exact h.distinct
  case columns =>
    intro d hd
    rw [tables_select]
    rw [Emission.select] at hd
    split at hd
    case isTrue => exact h.columns d hd
    case isFalse =>
      rcases List.mem_append.mp hd with hd | hd
      · exact h.columns d hd
      · obtain rfl := List.mem_singleton.mp hd
        exact hc
  case names =>
    rw [Emission.select]
    split
    case isTrue => exact h.names
    case isFalse hnew =>
      rw [List.map_append, List.nodup_append]
      refine ⟨h.names, List.nodup_singleton _, ?_⟩
      intro name hname name' hname' heq
      obtain ⟨d, hd, rfl⟩ := List.mem_map.mp hname
      obtain rfl := List.mem_singleton.mp hname'
      exact hnew (List.any_eq_true.mpr ⟨d, hd, decide_eq_true heq⟩)
  case joins =>
    rw [Emission.select]
    split <;> exact h.joins

theorem Scoped.join (h : e.Scoped s root) {owner localKey table target remoteKey : String}
    (howner : (owner, table) ∈ e.tables root) (href : s.References table localKey target remoteKey) :
    (e.join owner localKey target remoteKey).Scoped s root := by
  constructor
  case numbered =>
    intro t ht
    rw [tables_join, List.mem_append, List.mem_singleton] at ht
    rcases ht with ht | rfl
    · obtain ⟨n, hn, halias⟩ := h.numbered t ht
      exact ⟨n, Nat.lt_succ_of_lt hn, halias⟩
    · exact ⟨e.issued, Nat.lt_succ_self _, rfl⟩
  case distinct =>
    rw [tables_join, List.map_append, List.nodup_append]
    refine ⟨h.distinct, List.nodup_singleton _, ?_⟩
    intro a ha b hb heq
    obtain ⟨t, ht, rfl⟩ := List.mem_map.mp ha
    obtain rfl := List.mem_singleton.mp hb
    obtain ⟨n, hn, halias⟩ := h.numbered t ht
    have := aliasOf_injective (halias.symm.trans heq)
    omega
  case columns =>
    intro c hc
    refine (h.columns c hc).mono ?_
    rw [tables_join]
    exact List.subset_append_left _ _
  case names => exact h.names
  case joins =>
    refine chained_append.mpr ⟨h.joins, ⟨table, ?_, href⟩, trivial⟩
    exact howner

theorem Scoped.after (h : e.Scoped s root) {issued : Nat} (hle : e.issued ≤ issued) :
    (e.after issued).Scoped s root where
  numbered t ht := by
    obtain ⟨n, hn, halias⟩ := h.numbered t ht
    exact ⟨n, hn.trans_le hle, halias⟩
  distinct := h.distinct
  columns := h.columns
  names := h.names
  joins := h.joins

end Emission

namespace Plan

/-- A statement that is in order stays so when fields of one of its tables are emitted. -/
theorem Emits.scoped {s : Schema} {root : String × String} {namespaceName : Option String}
    {aliasName table : String} {fields : List Field} {e e' : Emission} {components : List Component}
    (h : Emits namespaceName aliasName fields e components e') (hsound : Sound s table fields)
    (he : e.Scoped s root) (ha : (aliasName, table) ∈ e.tables root) : e'.Scoped s root := by
  induction h generalizing table root with
  | nil => exact he
  | scalar _ ih =>
    cases hsound with
    | scalar hcolumn hrest =>
      refine ih hrest (he.select (hcolumn.output ha)) ?_
      rwa [Emission.tables_select]
  | @one aliasName _ localKey target remote _ _ e _ _ _ _ hchildren _ ihchildren ih =>
    cases hsound with
    | one _ href hremote _ hbelow hrest =>
      have hjoin := he.join ha href
      have hmem : (aliasOf e.issued, target.table)
          ∈ (e.join aliasName localKey target.table remote.name).tables root := by
        rw [Emission.tables_join]
        exact List.mem_append_right _ (List.mem_singleton_self _)
      have hselect := hjoin.select (hremote.output hmem)
      rw [← Emission.tables_select] at hmem
      exact ih hrest (ihchildren hbelow hselect hmem) (((Emission.extends_join _ _ _ _ _).trans
        ((Emission.extends_select _ _).trans hchildren.extends)).tables_subset ha)
  | @many aliasName _ _ parent _ _ _ e _ _ _ _ hchildren _ ihchildren ih =>
    cases hsound with
    | many _ _ hparent _ _ _ hrest =>
      have hissued := (Nat.le_succ _).trans hchildren.extends.issued
      rw [← Emission.issued_select e (parent.output aliasName)] at hissued
      refine ih hrest ((he.select (hparent.output ha)).after hissued) ?_
      change _ ∈ (e.select (parent.output aliasName)).tables root
      rwa [Emission.tables_select]

end Plan

/-! ### The statements of a query -/

mutual

def Component.statements : Component → List Statement
  | .row _ _ => []
  | .one _ _ children => statementsOf children
  | .many _ _ _ fetch components => ⟨fetch, components⟩ :: statementsOf components

def statementsOf : List Component → List Statement
  | [] => []
  | c :: rest => c.statements ++ statementsOf rest

end

def Statement.tree (st : Statement) : List Statement := st :: statementsOf st.components

/-- The statement was emitted for fields of a table of the schema, of which it has some. -/
inductive Statement.Emitted (s : Schema) (namespaceName : Option String) : Statement → Prop
  | mk {n : Nat} {visit : Plan.Visit} {filter : Option OutputColumn} {fields : List Plan.Field}
      {components : List Component} {e : Emission} (hne : fields ≠ []) (hvisit : visit.In s)
      (hfilter : ∀ c ∈ filter, c.In s [(aliasOf n, visit.table)])
      (hsound : Plan.Sound s visit.table fields)
      (hemits : Plan.Emits namespaceName (aliasOf n) fields (.start (n + 1) filter) components e) :
      Emitted s namespaceName ⟨e.fetch namespaceName visit (aliasOf n) filter, components⟩

theorem Plan.Emits.emitted {s : Schema} {namespaceName : Option String} {aliasName table : String}
    {fields : List Field} {e e' : Emission} {components : List Component}
    (h : Emits namespaceName aliasName fields e components e') (hsound : Sound s table fields) :
    ∀ st ∈ statementsOf components, st.Emitted s namespaceName := by
  induction h generalizing table with
  | nil =>
    intro st hst
    cases hst
  | scalar _ ih =>
    cases hsound with
    | scalar _ hrest => exact ih hrest
  | one _ _ ihchildren ih =>
    cases hsound with
    | one _ _ _ _ hbelow hrest =>
      intro st hst
      rcases List.mem_append.mp hst with hst | hst
      · exact ihchildren hbelow st hst
      · exact ih hrest st hst
  | many hchildren _ ihchildren ih =>
    cases hsound with
    | many hvisit _ _ hremote hne hbelow hrest =>
      intro st hst
      rcases List.mem_cons.mp hst with rfl | hst
      · refine .mk hne hvisit ?_ hbelow hchildren
        intro c hc
        obtain rfl := Option.mem_some.mp hc
        exact hremote.output (List.mem_singleton_self _)
      · rcases List.mem_append.mp hst with hst | hst
        · exact ihchildren hbelow st hst
        · exact ih hrest st hst

/-- The root statement was emitted for the checked fields of the root. -/
structure CompiledQuery.Root (s : Schema) (g : TypeGraph) (sel : Selection)
    (namespaceName : Option String) (o : ObjectType) (fields : List Plan.Field)
    (components : List Component) (e : Emission) (q : CompiledQuery) : Prop where
  object : g.object? sel.name = some o
  hasFields : Plan.HasFields sel.children
  checks : Plan.Checks g o sel.children fields
  sound : Plan.Sound s o.name fields
  emits : Plan.Emits namespaceName (aliasOf 0) fields (.start 1 none) components e
  statement : q.statement = ⟨e.fetch namespaceName (Plan.visitOf o) (aliasOf 0) none, components⟩

section Root

variable {s : Schema} {g : TypeGraph} {sel : Selection} {namespaceName : Option String}
  {q : CompiledQuery} (hs : s.WellFormed) (hg : TypeGraph.ofSchema s = .ok g)
  (hq : CompiledQuery.of g sel namespaceName = .ok q)

include hs hg hq

theorem CompiledQuery.exists_root :
    ∃ o fields components e, q.Root s g sel namespaceName o fields components e := by
  obtain ⟨p, hp, heq⟩ := bind_eq_ok_iff.mp hq
  obtain rfl := Except.ok.inj heq
  obtain ⟨o, ho, hfields, hroot, hchecks⟩ := Plan.of_eq_ok hp
  have hsound : Plan.Sound s o.name p.fields := by
    rw [TypeGraph.name_of_object? hg ho]
    exact hchecks.sound hs hg ho
  refine ⟨o, p.fields, _, _, ho, hfields, hchecks, hsound, Plan.emits_emitFields p.fields, ?_⟩
  rw [← hroot]
  rfl

theorem CompiledQuery.emitted_of_mem_tree :
    ∀ st ∈ q.statement.tree, st.Emitted s namespaceName := by
  obtain ⟨o, fields, components, e, hroot⟩ := exists_root hs hg hq
  rw [hroot.statement]
  intro st hst
  rcases List.mem_cons.mp hst with rfl | hst
  · exact .mk (hroot.checks.ne_nil hroot.hasFields) (Plan.visitOf_in hs hg hroot.object) (by simp)
      hroot.sound hroot.emits
  · exact hroot.emits.emitted hroot.sound st hst

end Root

/-- A test of compiling a selection against described tables finds what is compiled. -/
theorem CompiledQuery.exists_of_test {tables : List Catalog.Table} {sel : Selection}
    {namespaceName : Option String} {test : Schema → CompiledQuery → Bool}
    (h : ((Schema.ofTables tables).toOption.any fun s => (TypeGraph.ofSchema s).toOption.any fun g =>
      (CompiledQuery.of g sel namespaceName).toOption.any fun q => test s q) = true) :
    ∃ s g q, Schema.ofTables tables = .ok s ∧ TypeGraph.ofSchema s = .ok g ∧
      CompiledQuery.of g sel namespaceName = .ok q ∧ test s q = true := by
  obtain ⟨s, hs, hgraph⟩ := exists_ok_of_any h
  obtain ⟨g, hg, hquery⟩ := exists_ok_of_any hgraph
  obtain ⟨q, hq, htest⟩ := exists_ok_of_any hquery
  exact ⟨s, g, q, hs, hg, hq, htest⟩

end NestedRows
