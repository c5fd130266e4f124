import NestedRows.Proofs.Query.Meaning
import NestedRows.Proofs.Query.Scoping
import NestedRows.Proofs.Sql.Reading
import NestedRows.Proofs.TypeGraph.Components
/-!
# Touched tables

The tables that a query touches are noted while its fields are checked. They are the tables that its
statements name: a field that leads to one row adds a join to the statement under way, and one that
leads to many rows adds a statement of its own. So a source that answers a statement by the tables
that the statement names gives the same result for two databases that agree on the touched tables.
-/

namespace NestedRows

/-- The tables that a statement names, the one that it starts from and those that it joins. -/
def Statement.tableNames (st : Statement) : List String :=
  st.fetch.query.tables.map Sql.TableRef.table

def tableNamesIn (components : List Component) : List String :=
  (statementsOf components).flatMap Statement.tableNames

def Emission.joinedTables (e : Emission) : List String := e.joins.map JoinStep.table

theorem tableNames_fetch (e : Emission) (namespaceName : Option String) (visit : Plan.Visit)
    (aliasName : String) (filter : Option OutputColumn) (components : List Component) :
    Statement.tableNames ⟨e.fetch namespaceName visit aliasName filter, components⟩
      = visit.table :: e.joinedTables := by
  simp [Statement.tableNames, tables_query_fetch, Emission.tables, Emission.joinedTables,
    JoinStep.entry, Function.comp_def]

namespace Emission

theorem joinedTables_select (e : Emission) (c : OutputColumn) :
    (e.select c).joinedTables = e.joinedTables := by
  rw [select]
  split <;> rfl

theorem joinedTables_join (e : Emission) (owner localKey table remoteKey : String) :
    (e.join owner localKey table remoteKey).joinedTables = e.joinedTables ++ [table] := by
  simp [joinedTables, join]

end Emission

namespace Plan

/-- Each table that fields lead to is joined to the statement under way or named by one below it, and
no other table is. -/
theorem Emits.mem_tablesOf_iff {namespaceName : Option String} {aliasName : String}
    {fields : List Field} {e e' : Emission} {components : List Component}
    (h : Emits namespaceName aliasName fields e components e') (name : String) :
    name ∈ e'.joinedTables ∨ name ∈ tableNamesIn components ↔
      name ∈ e.joinedTables ∨ name ∈ tablesOf fields := by
  induction h with
  | nil => simp [tableNamesIn, statementsOf, tablesOf]
  | scalar _ ih =>
    rw [Emission.joinedTables_select] at ih
    simpa [tableNamesIn, statementsOf, Component.statements, tablesOf, Field.tables] using ih
  | one _ _ ihchildren ih =>
    rw [Emission.joinedTables_select, Emission.joinedTables_join, List.mem_append,
      List.mem_singleton] at ihchildren
    have hnames : ∀ field presence components more,
        tableNamesIn (.one field presence components :: more)
          = tableNamesIn components ++ tableNamesIn more := fun _ _ _ _ => List.flatMap_append
    rw [hnames, List.mem_append, tablesOf, Field.tables, List.mem_append, List.mem_cons]
    grind
  | @many _ _ target _ _ _ _ _ below _ components _ hchildren _ ihchildren ih =>
    have hstart : ∀ n filter, (Emission.start n filter).joinedTables = [] := fun _ _ => rfl
    have hafter : ∀ (e : Emission) n, (e.after n).joinedTables = e.joinedTables := fun _ _ => rfl
    rw [hstart, List.mem_nil_iff, false_or] at ihchildren
    rw [hafter, Emission.joinedTables_select] at ih
    have hnames : ∀ field parentKey slot aliasName filter more,
        tableNamesIn (.many field parentKey slot (below.fetch namespaceName target aliasName filter)
          components :: more)
          = (target.table :: below.joinedTables) ++ tableNamesIn components ++ tableNamesIn more := by
      intro field parentKey slot aliasName filter more
      rw [← tableNames_fetch below namespaceName target aliasName filter components]
      simp [tableNamesIn, statementsOf, Component.statements]
    rw [hnames, List.mem_append, List.mem_append, List.mem_cons, tablesOf, Field.tables,
      List.mem_append, List.mem_cons]
    grind

/-- Chains of fields lead to the tables of checked fields. -/
theorem Checks.chain {s : Schema} {g : TypeGraph} (hg : TypeGraph.ofSchema s = .ok g) {o : ObjectType}
    {l : List Selection} {fields : List Field} (h : Checks g o l fields) {name : String}
    (ho : g.object? name = some o) {table : String} (htable : table ∈ tablesOf fields) :
    Relation.ReflTransGen g.Leads name table := by
  have hbelow : ∀ {o t : ObjectType} {name field target : String} {f : NestedRows.Field}
      {below : List Field}, g.object? name = some o → o.fields.get? field = some f →
      f.kind.target? = some target → g.object? target = some t →
      (∀ {n : String}, g.object? n = some t → table ∈ tablesOf below →
        Relation.ReflTransGen g.Leads n table) →
      table ∈ (visitOf t).table :: tablesOf below → Relation.ReflTransGen g.Leads name table := by
    intro o t name field target f below ho hfield hkind htarget ih htable
    have hleads := TypeGraph.leads_of_field hg ho hfield hkind
    rcases List.mem_cons.mp htable with rfl | htable
    · have hname : (visitOf t).table = target := TypeGraph.name_of_object? hg htarget
      rw [hname]
      exact .single hleads
    · exact .head hleads (ih htarget htable)
  induction h generalizing name with
  | nil => cases htable
  | marker _ _ ih => exact ih ho htable
  | scalar _ _ _ _ ih => exact ih ho htable
  | one _ hfield hkind htarget _ _ _ _ ihchildren ih =>
    rcases List.mem_append.mp htable with htable | htable
    · exact hbelow ho hfield (by rw [hkind]; rfl) htarget ihchildren htable
    · exact ih ho htable
  | many _ hfield hkind htarget _ _ _ _ _ ihchildren ih =>
    rcases List.mem_append.mp htable with htable | htable
    · exact hbelow ho hfield (by rw [hkind]; rfl) htarget ihchildren htable
    · exact ih ho htable

end Plan

/-! ### Runs with the same answers -/

section Run

variable {σ : Type} {source source' : RowSource σ} {d : Dialect}

/-- Two sources answer the statement alike, for all keys and in all states. -/
def Statement.AnsweredAlike (source source' : RowSource σ) (d : Dialect) (st : Statement) : Prop :=
  ∀ keys state, source (st.fetch.render d keys) st.fetch.columns state
    = source' (st.fetch.render d keys) st.fetch.columns state

theorem Statement.AnsweredAlike.runWith_eq {st : Statement} (h : st.AnsweredAlike source source' d)
    {below below' : List Row → σ → Run σ (List Groups)} (hbelow : below = below')
    (keys : List Sql.Literal) (state : σ) :
    st.runWith source d keys below state = st.runWith source' d keys below' state := by
  rw [runWith, runWith, h keys state, hbelow]

mutual

theorem Component.runBelow_congr : (c : Component) →
    (∀ st ∈ c.statements, st.AnsweredAlike source source' d) →
    c.runBelow source d = c.runBelow source' d
  | .row _ _, _ => by
    funext rows state
    rw [Component.runBelow, Component.runBelow]
  | .one _ _ children, h => by
    funext rows state
    rw [Component.runBelow, Component.runBelow, runBelow_congr children h]
  | .many _ _ _ fetch components, h => by
    funext rows state
    obtain ⟨hfirst, hbelow⟩ := List.forall_mem_cons.mp h
    rw [Component.runBelow, Component.runBelow]
    rw [hfirst.runWith_eq (by rw [runBelow_congr components hbelow])]

theorem runBelow_congr : (l : List Component) →
    (∀ st ∈ statementsOf l, st.AnsweredAlike source source' d) →
    runBelow source d l = runBelow source' d l
  | [], _ => by
    funext rows state
    rw [runBelow, runBelow]
  | c :: rest, h => by
    funext rows state
    obtain ⟨hfirst, hrest⟩ := List.forall_mem_append.mp h
    rw [runBelow, runBelow, c.runBelow_congr hfirst, runBelow_congr rest hrest]

end

/-- The run of a query depends on the source through the answers to its statements only. -/
theorem CompiledQuery.run_congr {q : CompiledQuery}
    (h : ∀ st ∈ q.statement.tree, st.AnsweredAlike source source' d) (state : σ) :
    q.run source d state = q.run source' d state := by
  obtain ⟨hroot, hbelow⟩ := List.forall_mem_cons.mp h
  rw [run, run, Statement.run, Statement.run,
    hroot.runWith_eq (by rw [runBelow_congr q.statement.components hbelow])]

end Run

/-- Each statement of the query is answered by what is in the tables that it names. -/
def CompiledQuery.AnsweredByNames {σ τ : Type} (q : CompiledQuery) (d : Dialect)
    (source : (String → τ) → RowSource σ) : Prop :=
  ∀ st ∈ q.statement.tree, ∀ D₁ D₂, (∀ name ∈ st.tableNames, D₁ name = D₂ name) →
    st.AnsweredAlike (source D₁) (source D₂) d

/-- The touched tables are those that the statements name. The root is one, all of them are reached
from it, and databases that agree on them give the same result. -/
theorem CompiledQuery.touched_exact {s : Schema} {g : TypeGraph} {sel : Selection}
    {namespaceName : Option String} {q : CompiledQuery} (hg : TypeGraph.ofSchema s = .ok g)
    (hq : CompiledQuery.of g sel namespaceName = .ok q) :
    (∀ name, name ∈ q.touched ↔ ∃ st ∈ q.statement.tree, name ∈ st.tableNames) ∧
    q.root ∈ q.touched ∧
    (∀ name ∈ q.touched, name ∈ g.reachableFrom q.root) ∧
    ∀ {σ τ : Type} (d : Dialect) (source : (String → τ) → RowSource σ), q.AnsweredByNames d source →
      ∀ D₁ D₂, (∀ name ∈ q.touched, D₁ name = D₂ name) →
        ∀ state, q.run (source D₁) d state = q.run (source D₂) d state := by
  obtain ⟨p, hp, heq⟩ := bind_eq_ok_iff.mp hq
  obtain rfl := Except.ok.inj heq
  obtain ⟨o, ho, -, hvisit, hchecks⟩ := Plan.of_eq_ok hp
  have hroot : p.root.table = sel.name := by
    rw [hvisit]
    exact TypeGraph.name_of_object? hg ho
  have htouched : ∀ name, name ∈ p.touched ↔ name = sel.name ∨ name ∈ Plan.tablesOf p.fields := by
    intro name
    rw [Plan.touched, SortedSet.mem_ofList, List.mem_cons, hroot]
  have hnames : ∀ name, name ∈ p.touched ↔
      ∃ st ∈ (p.statement namespaceName).tree, name ∈ st.tableNames := by
    intro name
    have hemits : Plan.Emits namespaceName (aliasOf 0) p.fields (.start 1 none) _ _ :=
      Plan.emits_emitFields p.fields
    have hmem := hemits.mem_tablesOf_iff name
    have hstart : name ∉ (Emission.start 1 none).joinedTables := List.not_mem_nil
    have htree : (∃ st ∈ (p.statement namespaceName).tree, name ∈ st.tableNames) ↔
        name ∈ (p.statement namespaceName).tableNames ∨
          name ∈ tableNamesIn (p.statement namespaceName).components := by
      rw [Statement.tree, List.exists_mem_cons_iff, tableNamesIn, List.mem_flatMap]
    rw [htouched, htree, Plan.statement, tableNames_fetch, List.mem_cons, hroot]
    change _ ↔ (_ ∨ name ∈ Emission.joinedTables _) ∨ _
    tauto
  refine ⟨hnames, (htouched _).mpr (.inl rfl), ?_, ?_⟩
  · intro name hname
    refine TypeGraph.mem_reachableFrom_iff.mpr ⟨?_, ?_⟩
    · exact List.mem_map.mpr ⟨(sel.name, o), SortedMap.get?_eq_some_iff.mp ho, rfl⟩
    · rcases (htouched name).mp hname with rfl | hname
      · exact .refl
      · exact hchecks.chain hg ho hname
  · intro σ τ d source hsource D₁ D₂ hagree state
    refine run_congr (fun st hst => hsource st hst D₁ D₂ fun name hname => ?_) state
    exact hagree name ((hnames name).mpr ⟨st, hst, hname⟩)

/-! ### A source that reads the keys off the text -/

namespace Sql

theorem Query.answer_congr {D₁ D₂ : Database} {q : Query} (hle : D₁.le = D₂.le)
    (h : ∀ t ∈ q.tables, D₁.rows t.namespaceName t.table = D₂.rows t.namespaceName t.table) :
    q.answer D₁ = q.answer D₂ := by
  have hsource : q.sourceScopes D₁ = q.sourceScopes D₂ := by
    rw [sourceScopes, sourceScopes]
    cases hq : q.source with
    | none => rfl
    | some t =>
      dsimp only
      rw [h t (List.mem_append_left _ (by simp [hq]))]
  have hjoined : q.joinedScopes D₁ = q.joinedScopes D₂ := by
    rw [joinedScopes, joinedScopes, hsource]
    refine List.foldl_ext _ _ _ fun scopes j hj => ?_
    have hscopes : j.scopes D₁ = j.scopes D₂ := by
      funext scope
      rw [Join.scopes, Join.scopes, h j.table (List.mem_append_right _ (List.mem_map_of_mem hj))]
    rw [hscopes]
  have hleAll : ∀ vs ws, D₁.leAll vs ws = D₂.leAll vs ws := by
    intro vs
    induction vs with
    | nil => exact fun _ => rfl
    | cons v vs ih =>
      intro ws
      cases ws with
      | nil => rfl
      | cons w ws => rw [Database.leAll, Database.leAll, hle, ih]
  rw [answer, answer, scopes, scopes, keptScopes, keptScopes, hjoined]
  simp only [hleAll]

/-- The constants that a text holds. -/
def literalsIn (text : String) : List Literal :=
  ((read? text).getD []).filterMap fun t =>
    match t with
    | .literal l => some l
    | _ => none

end Sql

/-- The source that knows a statement by its columns, and answers it by the rows of its tables for the
keys that its text holds. -/
def CompiledQuery.tableSource (q : CompiledQuery) (rows : String → List Sql.Record) : RowSource Unit :=
  fun text columns state =>
    match q.statement.tree.find? fun st => st.fetch.columns = columns with
    | none => (.ok [], state)
    | some st =>
      let D : Sql.Database := { shopRows with rows := fun _ table => rows table }
      (.ok ((st.fetch.restricted (Sql.literalsIn text)).answer D), state)

theorem CompiledQuery.answeredByNames_tableSource {q : CompiledQuery}
    (h : (q.statement.tree.map fun st => st.fetch.columns).Nodup) (d : Dialect) :
    q.AnsweredByNames d q.tableSource := by
  intro st hst rows₁ rows₂ hagree keys state
  rw [tableSource, tableSource]
  cases hfound : q.statement.tree.find? fun other => other.fetch.columns = st.fetch.columns with
  | none => rfl
  | some other =>
    have hcolumns : other.fetch.columns = st.fetch.columns := by simpa using List.find?_some hfound
    obtain rfl := List.inj_on_of_nodup_map h (List.mem_of_find?_eq_some hfound) hst hcolumns
    obtain ⟨condition, hrestricted, -⟩ := restricted_eq other.fetch
      (Sql.literalsIn (other.fetch.render d keys))
    refine congrArg (fun answer => (Except.ok answer, state)) (Sql.Query.answer_congr rfl ?_)
    intro t ht
    rw [hrestricted] at ht
    exact hagree t.table (List.mem_map_of_mem ht)

/-- Customers with what leads from them to other customers. -/
def customersSelection : Selection := .node "customers" [
  .node "email" [],
  .node "referrer_id" [.node "email" []],
  .node "customers_on_referrer_id" [.node "id" []]]

/-- What becomes of the orders is of no concern to a query about customers. -/
theorem CompiledQuery.run_customersSelection : ∃ s g q, Schema.ofTables Schema.shopTables = .ok s ∧
    TypeGraph.ofSchema s = .ok g ∧ CompiledQuery.of g customersSelection none = .ok q ∧
    q.AnsweredByNames .sqlite q.tableSource ∧
    q.run (q.tableSource (shopRows.rows none)) .sqlite ()
      = q.run (q.tableSource fun table => if table = "orders" then [] else shopRows.rows none table)
        .sqlite () := by
  have htest : ((Schema.ofTables Schema.shopTables).toOption.any fun s =>
      (TypeGraph.ofSchema s).toOption.any fun g =>
        (CompiledQuery.of g customersSelection none).toOption.any fun q =>
          decide (q.touched.toList = ["customers"]) &&
            decide (q.statement.tree.map fun st => st.fetch.columns).Nodup) = true := by
    decide +kernel
  obtain ⟨s, g, q, hs, hg, hq, hboth⟩ := exists_of_test htest
  obtain ⟨htouched, hcolumns⟩ := Bool.and_eq_true_iff.mp hboth
  have hsource := answeredByNames_tableSource (of_decide_eq_true hcolumns) .sqlite
  refine ⟨s, g, q, hs, hg, hq, hsource, (touched_exact hg hq).2.2.2 .sqlite _ hsource _ _ ?_ ()⟩
  intro name hname
  have hmem : name ∈ q.touched.toList := hname
  rw [of_decide_eq_true htouched, List.mem_singleton] at hmem
  rw [hmem]
  rfl

end NestedRows
