import NestedRows.Proofs.Query.Emission
import Mathlib.Data.List.Perm.Basic
/-!
# Compiled queries are well scoped

The statements of a compiled query fit together. Over all of them the aliases are numbered through;
each statement mentions only its own tables, and a join only its own table and an earlier one; what is
made of a row uses only the columns that were selected, each under a name of its own; and the slots of
the statements below a statement are numbered in the order of the selection.
-/

namespace NestedRows

namespace Sql

mutual

/-- The columns that an expression mentions, each with the name in front of it. -/
def Expr.columns : Expr → List (Option String × String)
  | .column table column => [(table, column)]
  | .literal _ => []
  | .eq left right => left.columns ++ right.columns
  | .and left right => left.columns ++ right.columns
  | .isIn e values => e.columns ++ columnsOf values

def columnsOf : List Expr → List (Option String × String)
  | [] => []
  | e :: rest => e.columns ++ columnsOf rest

end

def Query.tables (q : Query) : List TableRef := q.source.toList ++ q.joins.map Join.table

/-- The expression mentions columns of the given tables only, each behind the alias of its table. -/
def Expr.ScopedIn (e : Expr) (s : Schema) (tables : List TableRef) : Prop :=
  ∀ c ∈ e.columns, ∃ t ∈ tables, ∃ aliasName, c.1 = some aliasName ∧ t.aliasName = some aliasName ∧
    ∃ k, s.Has t.table c.2 k

/-- Every expression of the statement mentions tables of the statement, and the condition of a join
its own table and one introduced before it. -/
structure Query.WellScoped (s : Schema) (q : Query) : Prop where
  select : ∀ item ∈ q.select, item.expr.ScopedIn s q.tables
  joins : ∀ before j after, q.joins = before ++ j :: after →
    ∃ t ∈ q.source.toList ++ before.map Join.table, j.on.ScopedIn s [t, j.table]
  condition : ∀ e ∈ q.condition, e.ScopedIn s q.tables
  orderBy : ∀ e ∈ q.orderBy, e.ScopedIn s q.tables

theorem columnsOf_literals (keys : List Literal) : columnsOf (keys.map .literal) = [] := by
  induction keys with
  | nil => rfl
  | cons k rest ih => rw [List.map_cons, columnsOf, ih, Expr.columns, List.append_nil]

theorem scopedIn_columnOf {s : Schema} {tables : List TableRef} {t : TableRef} {aliasName column : String}
    {k : Key} (ht : t ∈ tables) (halias : t.aliasName = some aliasName) (hk : s.Has t.table column k) :
    (Expr.columnOf aliasName column).ScopedIn s tables := by
  intro c hc
  obtain rfl := List.mem_singleton.mp hc
  exact ⟨t, ht, aliasName, rfl, halias, k, hk⟩

theorem Expr.ScopedIn.eq {s : Schema} {tables : List TableRef} {left right : Expr}
    (hl : left.ScopedIn s tables) (hr : right.ScopedIn s tables) : (eq left right).ScopedIn s tables := by
  intro c hc
  rcases List.mem_append.mp hc with hc | hc
  · exact hl c hc
  · exact hr c hc

end Sql

/-! ### What a component uses -/

mutual

/-- The names of columns that a component reads off a row of its statement. -/
def Component.usedNames : Component → List String
  | .row _ column => [column]
  | .one _ presence children => presence :: usedNamesOf children
  | .many _ parentKey _ _ _ => [parentKey]

def usedNamesOf : List Component → List String
  | [] => []
  | c :: rest => c.usedNames ++ usedNamesOf rest

end

mutual

def Component.selection : Component → Selection
  | .row field _ => .node field []
  | .one field _ children => .node field (selectionsOf children)
  | .many field _ _ _ components => .node field (selectionsOf components)

def selectionsOf : List Component → List Selection
  | [] => []
  | c :: rest => c.selection :: selectionsOf rest

end

mutual

/-- The selection without markers; none if it is one. -/
def Selection.unmarked : Selection → List Selection
  | .node name children =>
    if Plan.isMarker name then [] else [.node name (unmarkedOf children)]

def unmarkedOf : List Selection → List Selection
  | [] => []
  | s :: rest => s.unmarked ++ unmarkedOf rest

end

namespace Statement

/-- The aliases that a statement introduces. -/
def aliases (st : Statement) : List (Option String) :=
  st.fetch.query.tables.map Sql.TableRef.aliasName

/-- The statement mentions only what is there, for any keys that it is restricted to, and what is made
of its rows uses only what it selects. -/
structure WellScoped (s : Schema) (st : Statement) : Prop where
  query : ∀ keys, (st.fetch.restricted keys).WellScoped s
  columns : st.fetch.columns ≠ []
  items : ∀ keys, (st.fetch.restricted keys).select.map Sql.SelectItem.aliasName
    = st.fetch.columns.map fun c => some c.name
  names : (st.fetch.columns.map OutputColumn.name).Nodup
  used : ∀ name ∈ usedNamesOf st.components, name ∈ st.fetch.columns.map OutputColumn.name
  filter : ∀ c ∈ st.fetch.filter, c.name ∈ st.fetch.columns.map OutputColumn.name
  slots : (subFetchesOf st.components).map SubFetch.slot = List.range st.fetch.subFetches

end Statement

/-! ### Aliases -/

def firstAliases (n : Nat) : List (Option String) := (List.range n).map fun i => some (aliasOf i)

theorem firstAliases_succ (n : Nat) : firstAliases (n + 1) = firstAliases n ++ [some (aliasOf n)] := by
  rw [firstAliases, List.range_succ, List.map_append]
  rfl

theorem nodup_firstAliases (n : Nat) : (firstAliases n).Nodup :=
  List.nodup_range.map fun _ _ h => aliasOf_injective (Option.some.inj h)

def Emission.joinAliases (e : Emission) : List (Option String) :=
  e.joins.map fun j => some j.aliasName

theorem Emission.joinAliases_select (e : Emission) (c : OutputColumn) :
    (e.select c).joinAliases = e.joinAliases := by
  rw [select]
  split <;> rfl

theorem Emission.joinAliases_join (e : Emission) (owner localKey table remoteKey : String) :
    (e.join owner localKey table remoteKey).joinAliases
      = e.joinAliases ++ [some (aliasOf e.issued)] := by
  simp [joinAliases, join]

theorem aliases_fetch (e : Emission) (namespaceName : Option String) (visit : Plan.Visit)
    (aliasName : String) (filter : Option OutputColumn) (components : List Component) :
    Statement.aliases ⟨e.fetch namespaceName visit aliasName filter, components⟩
      = some aliasName :: e.joinAliases := by
  simp [Statement.aliases, Sql.Query.tables, Fetch.query, Emission.fetch, Fetch.tableRef, Fetch.join,
    Emission.joinAliases, Function.comp_def]

namespace Plan

/-- Emitting fields introduces each of the next aliases once, in the statement or below it. -/
theorem Emits.count_aliases {namespaceName : Option String} {aliasName : String} {fields : List Field}
    {e e' : Emission} {components : List Component}
    (h : Emits namespaceName aliasName fields e components e') (a : Option String) :
    e'.joinAliases.count a + ((statementsOf components).flatMap Statement.aliases).count a
        + (firstAliases e.issued).count a
      = e.joinAliases.count a + (firstAliases e'.issued).count a := by
  induction h with
  | nil => simp [statementsOf]
  | scalar _ ih =>
    rw [Emission.issued_select, Emission.joinAliases_select] at ih
    exact ih
  | one _ _ ihchildren ih =>
    rw [Emission.issued_select, Emission.joinAliases_select, Emission.joinAliases_join, Emission.join,
      firstAliases_succ] at ihchildren
    simp only [statementsOf, Component.statements, List.flatMap_append, List.count_append]
      at ihchildren ih ⊢
    omega
  | @many aliasName _ _ parent _ _ _ e below _ _ _ _ _ ihchildren ih =>
    have hafter : ((e.select (parent.output aliasName)).after below.issued).joinAliases
        = e.joinAliases := Emission.joinAliases_select e _
    have hstart : ∀ n filter, (Emission.start n filter).joinAliases = [] := fun _ _ => rfl
    rw [hstart, Emission.start, firstAliases_succ] at ihchildren
    rw [hafter, Emission.after] at ih
    simp only [statementsOf, Component.statements, List.cons_append, List.flatMap_cons, aliases_fetch,
      List.flatMap_append, List.count_append, List.count_cons, List.count_nil] at ihchildren ih ⊢
    omega

theorem Emits.slots {namespaceName : Option String} {aliasName : String} {fields : List Field}
    {e e' : Emission} {components : List Component}
    (h : Emits namespaceName aliasName fields e components e') :
    List.range e.subFetches ++ (subFetchesOf components).map SubFetch.slot
      = List.range e'.subFetches := by
  induction h with
  | nil => simp [subFetchesOf]
  | scalar _ ih =>
    rw [Emission.subFetches_select] at ih
    exact ih
  | one _ _ ihchildren ih =>
    rw [Emission.subFetches_select] at ihchildren
    rw [subFetchesOf, Component.subFetches, List.map_append, ← List.append_assoc]
    exact (congrArg (· ++ _) ihchildren).trans ih
  | many _ _ _ ih =>
    rw [Emission.after, Emission.subFetches_select, List.range_succ] at ih
    rw [subFetchesOf, Component.subFetches, List.map_append, ← List.append_assoc]
    exact ih

theorem Emits.used {namespaceName : Option String} {aliasName : String} {fields : List Field}
    {e e' : Emission} {components : List Component}
    (h : Emits namespaceName aliasName fields e components e') :
    ∀ name ∈ usedNamesOf components, name ∈ e'.columns.map OutputColumn.name := by
  induction h with
  | nil => simp [usedNamesOf]
  | scalar hrest ih =>
    intro name hname
    rcases List.mem_cons.mp hname with rfl | hname
    · exact hrest.extends.names_subset (Emission.name_mem_select _ _)
    · exact ih name hname
  | one hchildren hrest ihchildren ih =>
    intro name hname
    rcases List.mem_cons.mp hname with rfl | hname
    · exact (hchildren.extends.trans hrest.extends).names_subset (Emission.name_mem_select _ _)
    · rcases List.mem_append.mp hname with hname | hname
      · exact hrest.extends.names_subset (ihchildren name hname)
      · exact ih name hname
  | many _ hrest _ ih =>
    intro name hname
    rcases List.mem_cons.mp hname with rfl | hname
    · exact hrest.extends.names_subset (Emission.name_mem_select _ _)
    · exact ih name hname

theorem Emits.usedNamesOf_ne_nil {namespaceName : Option String} {aliasName : String}
    {fields : List Field} {e e' : Emission} {components : List Component}
    (h : Emits namespaceName aliasName fields e components e') (hne : fields ≠ []) :
    usedNamesOf components ≠ [] := by
  cases h with
  | nil => exact absurd rfl hne
  | scalar => exact List.cons_ne_nil _ _
  | one => exact List.cons_ne_nil _ _
  | many => exact List.cons_ne_nil _ _

mutual

def Field.selection : Field → Selection
  | .scalar field _ => .node field []
  | .one field _ _ _ children => .node field (selectionsOf children)
  | .many field _ _ _ children => .node field (selectionsOf children)

/-- The selections that checked fields answer. -/
def selectionsOf : List Field → List Selection
  | [] => []
  | f :: rest => f.selection :: selectionsOf rest

end

/-- A plan leaves out nothing but the markers. -/
theorem Checks.selectionsOf_eq {g : TypeGraph} {o : ObjectType} {l : List Selection}
    {fields : List Field} (h : Checks g o l fields) : selectionsOf fields = unmarkedOf l := by
  induction h with
  | nil => rfl
  | marker hmarker _ ih => simp [unmarkedOf, Selection.unmarked, hmarker, ih]
  | scalar hmarker _ _ _ ih =>
    simp [selectionsOf, Field.selection, unmarkedOf, Selection.unmarked, hmarker, ih]
  | one hmarker _ _ _ _ _ _ _ ihbelow ih =>
    simp [selectionsOf, Field.selection, unmarkedOf, Selection.unmarked, hmarker, ihbelow, ih]
  | many hmarker _ _ _ _ _ _ _ _ ihbelow ih =>
    simp [selectionsOf, Field.selection, unmarkedOf, Selection.unmarked, hmarker, ihbelow, ih]

theorem Emits.selectionsOf_eq {namespaceName : Option String} {aliasName : String}
    {fields : List Field} {e e' : Emission} {components : List Component}
    (h : Emits namespaceName aliasName fields e components e') :
    NestedRows.selectionsOf components = selectionsOf fields := by
  induction h with
  | nil => rfl
  | scalar _ ih => rw [NestedRows.selectionsOf, Component.selection, ih, selectionsOf, Field.selection]
  | one _ _ ihchildren ih =>
    rw [NestedRows.selectionsOf, Component.selection, ihchildren, ih, selectionsOf, Field.selection]
  | many _ _ ihchildren ih =>
    rw [NestedRows.selectionsOf, Component.selection, ihchildren, ih, selectionsOf, Field.selection]

end Plan

/-! ### Statements in order are well scoped -/

theorem tables_query_fetch (e : Emission) (namespaceName : Option String) (visit : Plan.Visit)
    (aliasName : String) (filter : Option OutputColumn) :
    (e.fetch namespaceName visit aliasName filter).query.tables
      = (e.tables (aliasName, visit.table)).map fun t => ⟨namespaceName, t.2, some t.1⟩ := by
  simp [Sql.Query.tables, Fetch.query, Emission.fetch, Fetch.tableRef, Fetch.join, Emission.tables,
    JoinStep.entry, Function.comp_def]

theorem JoinStep.scopedIn_on {s : Schema} (hs : s.WellFormed) {f : Fetch} {j : JoinStep} {table : String}
    (href : s.References table j.localKey j.table j.remoteKey) :
    (f.join j).on.ScopedIn s [f.tableRef table j.owner, (f.join j).table] := by
  obtain ⟨k, hk⟩ := href.source
  obtain ⟨k', hk', -⟩ := hs.target_of_references href hk
  refine Sql.Expr.ScopedIn.eq ?_ ?_
  · exact Sql.scopedIn_columnOf List.mem_cons_self rfl hk
  · exact Sql.scopedIn_columnOf (List.mem_cons_of_mem _ List.mem_cons_self) rfl hk'

section Scoped

variable {s : Schema} {namespaceName : Option String} {visit : Plan.Visit} {aliasName : String}
  {filter : Option OutputColumn} {e : Emission}

theorem OutputColumn.In.scopedIn {c : OutputColumn}
    (hc : c.In s (e.tables (aliasName, visit.table))) :
    c.expr.ScopedIn s (e.fetch namespaceName visit aliasName filter).query.tables := by
  obtain ⟨table, hmem, k, hk, -⟩ := hc
  rw [tables_query_fetch]
  exact Sql.scopedIn_columnOf (List.mem_map.mpr ⟨_, hmem, rfl⟩) rfl hk

theorem Emission.Scoped.query_wellScoped (he : e.Scoped s (aliasName, visit.table))
    (hs : s.WellFormed) (hvisit : visit.In s)
    (hfilter : ∀ c ∈ filter, c.In s (e.tables (aliasName, visit.table))) (keys : List Sql.Literal) :
    ((e.fetch namespaceName visit aliasName filter).restricted keys).WellScoped s := by
  obtain ⟨condition, hrestricted, hcondition⟩ :=
    restricted_eq (e.fetch namespaceName visit aliasName filter) keys
  rw [hrestricted]
  constructor
  case select =>
    intro item hitem
    obtain ⟨c, hc, rfl⟩ := List.mem_map.mp hitem
    exact (he.columns c hc).scopedIn
  case joins =>
    intro before j after hjoins
    obtain ⟨before, rest, hsplit, rfl, hrest⟩ := List.map_eq_append_iff.mp hjoins
    obtain ⟨j, after, rfl, rfl, rfl⟩ := List.map_eq_cons_iff.mp hrest
    have hchained := he.joins
    rw [show e.joins = before ++ j :: after from hsplit, chained_append] at hchained
    obtain ⟨table, hmem, href⟩ := hchained.2.1
    refine ⟨Fetch.tableRef _ table j.owner, ?_, j.scopedIn_on hs href⟩
    rcases List.mem_cons.mp hmem with heq | hmem
    · obtain ⟨howner, rfl⟩ := Prod.mk.inj heq
      rw [howner]
      exact List.mem_cons_self
    · obtain ⟨i, hi, heq⟩ := List.mem_map.mp hmem
      obtain ⟨howner, rfl⟩ := Prod.mk.inj heq
      rw [← howner]
      exact List.mem_cons_of_mem _
        (List.mem_map.mpr ⟨_, List.mem_map.mpr ⟨i, hi, rfl⟩, rfl⟩)
  case condition =>
    intro e' he' c hc
    obtain ⟨column, hcolumn, rfl⟩ := hcondition e' he'
    rw [Sql.Expr.columns, Sql.columnsOf_literals, List.append_nil] at hc
    exact (hfilter column hcolumn).scopedIn c hc
  case orderBy =>
    intro e' he'
    obtain ⟨pk, hpk, rfl⟩ := List.mem_map.mp he'
    obtain ⟨k, hk⟩ := hvisit pk (Option.mem_toList.mp hpk)
    refine Sql.scopedIn_columnOf (t := ⟨namespaceName, visit.table, some aliasName⟩) ?_ rfl hk
    exact List.mem_cons_self

end Scoped

theorem Statement.wellScoped_of_emitted {s : Schema} {namespaceName : Option String} {st : Statement}
    (hs : s.WellFormed) (h : st.Emitted s namespaceName) : st.WellScoped s := by
  obtain ⟨hne, hvisit, hfilter, hsound, hemits⟩ := h
  have he := hemits.scoped hsound (Emission.scoped_start hfilter) List.mem_cons_self
  have hext := hemits.extends
  constructor
  case query =>
    refine he.query_wellScoped hs hvisit fun c hc => (hfilter c hc).mono ?_
    exact List.cons_subset_cons _ (List.nil_subset _)
  case columns =>
    obtain ⟨name, hname⟩ := List.exists_mem_of_ne_nil _ (hemits.usedNamesOf_ne_nil hne)
    exact List.ne_nil_of_mem (List.mem_map.mp (hemits.used name hname)).choose_spec.1
  case items =>
    intro keys
    obtain ⟨condition, hrestricted, -⟩ := restricted_eq (Emission.fetch _ _ _ _ _) keys
    rw [hrestricted]
    exact List.map_map ..
  case names => exact he.names
  case used => exact hemits.used
  case filter =>
    intro c hc
    exact List.mem_map_of_mem (hext.columns.subset (Option.mem_toList.mpr hc))
  case slots => exact hemits.slots

/-- The aliases of all statements together are the first ones, each there once. -/
theorem Plan.Emits.perm_aliases {namespaceName : Option String} {fields : List Field} {e : Emission}
    {components : List Component}
    (h : Emits namespaceName (aliasOf 0) fields (.start 1 none) components e) (visit : Visit) :
    ((Statement.mk (e.fetch namespaceName visit (aliasOf 0) none) components).tree.flatMap
      Statement.aliases).Perm (firstAliases e.issued) := by
  refine List.perm_iff_count.mpr fun a => ?_
  have hcount := h.count_aliases a
  have hstart : firstAliases (Emission.start 1 none).issued = [some (aliasOf 0)] := rfl
  have hnone : (Emission.start 1 none).joinAliases = [] := rfl
  rw [hstart, hnone, List.count_nil] at hcount
  rw [Statement.tree, List.flatMap_cons, aliases_fetch]
  simp only [List.count_append, List.count_cons, List.count_nil] at hcount ⊢
  omega

/-- The statements of a compiled query introduce the first aliases, each once; each of them is well
scoped and uses what it selects; and they answer the selected fields in the order of the selection. -/
theorem CompiledQuery.wellScoped {tables : List Catalog.Table} {s : Schema} {g : TypeGraph}
    {sel : Selection} {namespaceName : Option String} {q : CompiledQuery}
    (hs : Schema.ofTables tables = .ok s) (hg : TypeGraph.ofSchema s = .ok g)
    (hq : CompiledQuery.of g sel namespaceName = .ok q) :
    (∃ n, (q.statement.tree.flatMap Statement.aliases).Perm
      ((List.range n).map fun i => some (aliasOf i))) ∧
    (q.statement.tree.flatMap Statement.aliases).Nodup ∧
    (∀ st ∈ q.statement.tree, st.WellScoped s) ∧
    selectionsOf q.statement.components = unmarkedOf sel.children := by
  have hwf := Schema.wellFormed_of_ofTables hs
  have hemitted := CompiledQuery.emitted_of_mem_tree hwf hg hq
  obtain ⟨o, fields, components, e, hroot⟩ := exists_root hwf hg hq
  have hperm := hroot.emits.perm_aliases (Plan.visitOf o)
  rw [← hroot.statement] at hperm
  refine ⟨⟨_, hperm⟩, hperm.nodup_iff.mpr (nodup_firstAliases _), ?_, ?_⟩
  · exact fun st hst => Statement.wellScoped_of_emitted hwf (hemitted st hst)
  · rw [hroot.statement]
    exact hroot.emits.selectionsOf_eq.trans hroot.checks.selectionsOf_eq

/-- Orders with their customers, and with the orders of those whom the customers referred. -/
def shopSelection : Selection := .node "orders" [
  .node "id" [],
  .node "customer_id" [
    .node "email" [],
    .node "customers_on_referrer_id" [
      .node "__typename" [],
      .node "orders_on_customer_id" [.node "id" []]],
    .node "referrer_id" [.node "email" []]]]

theorem CompiledQuery.wellScoped_shopSelection : ∃ s g q, Schema.ofTables Schema.shopTables = .ok s ∧
    TypeGraph.ofSchema s = .ok g ∧ CompiledQuery.of g shopSelection none = .ok q ∧
    (q.statement.tree.flatMap Statement.aliases).Nodup ∧
    ∀ st ∈ q.statement.tree, st.WellScoped s := by
  have htest : ((Schema.ofTables Schema.shopTables).toOption.any fun s =>
      (TypeGraph.ofSchema s).toOption.any fun g =>
        (CompiledQuery.of g shopSelection none).toOption.any fun _ => true) = true := by
    decide +kernel
  obtain ⟨s, g, q, hs, hg, hq, -⟩ := exists_of_test htest
  obtain ⟨-, hnodup, hscoped, -⟩ := CompiledQuery.wellScoped hs hg hq
  exact ⟨s, g, q, hs, hg, hq, hnodup, hscoped⟩

end NestedRows
