import NestedRows.Proofs.Query.Rows
import NestedRows.Proofs.Query.Scopes
/-!
# What a compiled query answers

A compiled query answers what its selection asks for (`CompiledQuery.run_eq_answer`). The statements are
answered by their rows in a database; that a row of a statement shows the row of its table and the
rows that joins lead to is known (`answer_restricted`), so it remains to see that the objects are put
together rightly. This goes by induction on how the fields of a plan are emitted: fields of joined rows
are found in the same row, and the objects of a lower statement are found in the group of their key,
since values of one key column have the same text only if they are the same.
-/

namespace NestedRows

open Sql (Database Record Scope)

/-- The statements that a run fetches with their keys, if each is answered by its rows in `D`. -/
inductive CompiledQuery.Fetches (D : Database) (q : CompiledQuery) :
    Statement → List Sql.Literal → Prop
  | root : Fetches D q q.statement []
  | lower {st : Statement} {keys : List Sql.Literal} {sub : SubFetch} (hst : Fetches D q st keys)
      (hsub : sub ∈ subFetchesOf st.components)
      (hkeys : distinctKeys ((st.fetch.restricted keys).answer D) sub.parentKey ≠ []) :
      Fetches D q sub.statement (distinctKeys ((st.fetch.restricted keys).answer D) sub.parentKey)

/-- The source answers what a run fetches by the rows in `D`, in whatever state it is. -/
def RowSource.Answers {σ : Type} (source : RowSource σ) (d : Dialect) (D : Database)
    (q : CompiledQuery) : Prop :=
  ∀ st keys, q.Fetches D st keys → ∀ state,
    (source (st.fetch.render d keys) st.fetch.columns state).1
      = .ok ((st.fetch.restricted keys).answer D)

/-! ### Runs without errors -/

section Run

variable {σ α β : Type}

theorem Run.next_eq {r : Run σ α} {f : α → σ → Run σ β} {a : α} (h : r.1 = .ok a) :
    r.next f = f a r.2 := by
  obtain ⟨result, state⟩ := r
  obtain rfl := h
  rfl

theorem runBelow_cons_fst {source : RowSource σ} {d : Dialect} {c : Component}
    {rest : List Component} {rows : List Row} {first more : List Groups}
    (hfirst : ∀ state, (c.runBelow source d rows state).1 = .ok first)
    (hmore : ∀ state, (runBelow source d rest rows state).1 = .ok more) (state : σ) :
    (runBelow source d (c :: rest) rows state).1 = .ok (first ++ more) := by
  rw [runBelow, Run.next_eq (hfirst state), Run.next_eq (hmore _)]

theorem Statement.run_of_skipped {source : RowSource σ} {d : Dialect} {st : Statement}
    {keys : List Sql.Literal} (h : (st.fetch.filter.isSome && keys.isEmpty) = true) (state : σ) :
    st.run source d keys state = (.ok [], state) :=
  if_pos h

theorem Statement.run_of_fetched {source : RowSource σ} {d : Dialect} {st : Statement}
    {keys : List Sql.Literal} (h : (st.fetch.filter.isSome && keys.isEmpty) = false) {rows : List Row}
    {groups : List Groups} {state : σ}
    (hrows : (source (st.fetch.render d keys) st.fetch.columns state).1 = .ok rows)
    (hbelow : ∀ state, (runBelow source d st.components rows state).1 = .ok groups) :
    (st.run source d keys state).1 = .ok (st.assembleAll rows groups) := by
  rw [Statement.run, Statement.runWith, h, if_neg Bool.false_ne_true, Run.next_eq hrows,
    Run.next_eq (hbelow _)]

end Run

/-! ### Rows and keys of a statement -/

section Rows

variable {s : Schema} {root : String × String} {e : Emission} (he : e.Scoped s root)

include he

theorem get?_rowOf {c : OutputColumn} (hc : c.In s (e.tables root))
    (hname : c.name ∈ e.columns.map OutputColumn.name) (scope : Scope) :
    (rowOf e.columns scope).get? c.name
      = some (scope (some c.aliasName) c.column).toJson := by
  obtain ⟨d, hd, hdname⟩ := List.mem_map.mp hname
  have hnumbered : ∀ {b : OutputColumn}, b.In s (e.tables root) → ∃ n, b.aliasName = aliasOf n := by
    rintro b ⟨table, hmem, -⟩
    obtain ⟨n, -, hn⟩ := he.numbered _ hmem
    exact ⟨n, hn⟩
  obtain ⟨m, hm⟩ := hnumbered hc
  obtain ⟨n, hn⟩ := hnumbered (he.columns d hd)
  obtain ⟨halias, hcolumn⟩ := OutputColumn.eq_of_name_eq hn hm hdname
  refine Row.get?_of_mem ?_ ?_
  · rw [rowOf, List.map_map]
    exact he.names
  · rw [← hdname, ← halias, ← hcolumn]
    exact List.mem_map.mpr ⟨d, hd, rfl⟩

/-- The rows of a statement have each key value of a column among their keys. -/
theorem mem_distinctKeys {c : OutputColumn} (hc : c.In s (e.tables root))
    (hname : c.name ∈ e.columns.map OutputColumn.name) {t : FieldType} (ht : t ≠ .float)
    {scopes : List Scope} (htyped : ∀ scope ∈ scopes, (scope (some c.aliasName) c.column).HasType t)
    {scope : Scope} (hscope : scope ∈ scopes) (hne : scope (some c.aliasName) c.column ≠ .null) :
    scope (some c.aliasName) c.column ∈ distinctKeys (scopes.map (rowOf e.columns)) c.name := by
  have hvalues : (scopes.map (rowOf e.columns)).filterMap (·.get? c.name)
      = scopes.map fun scope => (scope (some c.aliasName) c.column).toJson := by
    rw [List.filterMap_map]
    simp only [Function.comp_def, get?_rowOf he hc hname]
    exact congrFun List.filterMap_eq_map' scopes
  cases hk : keyOf (scope (some c.aliasName) c.column).toJson with
  | none => exact absurd ((Sql.Literal.keyOf_toJson_eq_none_iff ht (htyped scope hscope)).mp hk) hne
  | some k =>
    rw [distinctKeys, hvalues, List.mem_filterMap]
    have hmem : (scope (some c.aliasName) c.column).toJson
        ∈ scopes.map fun scope => (scope (some c.aliasName) c.column).toJson :=
      List.mem_map.mpr ⟨scope, hscope, rfl⟩
    obtain ⟨w, hw, hwk⟩ := exists_mem_distinctValues hmem hk (List.not_mem_nil (a := k))
    obtain ⟨other, hother, rfl⟩ := List.mem_map.mp (mem_of_mem_distinctValues hw)
    have hsame := Sql.Literal.eq_of_keyOf_toJson_eq ht (htyped other hother) (htyped scope hscope)
      (hwk.trans hk.symm)
    refine ⟨_, hw, ?_⟩
    rw [Sql.Literal.ofJson?_toJson ht (htyped other hother), hsame]

end Rows

/-! ### Lower statements -/

/-- The objects of the wanted rows, each with its value in the filter column. -/
def keyedObjects (D : Database) (namespaceName : Option String) (visit : Plan.Visit)
    (filter : Option OutputColumn) (keys : List Sql.Literal) (fields : List Plan.Field) :
    List (Option String × Json) :=
  (wanted D namespaceName visit filter keys).map fun r =>
    (filter.bind fun c => keyOf (r c.column).toJson,
      .sortedObj (Plan.valuesOn D namespaceName fields r))

section Lower

variable {s : Schema} {D : Database} {namespaceName : Option String} (hD : D.Fits s namespaceName)
  (hs : s.WellFormed)

include hD hs

/-- The group of a key holds the objects of the rows that lead to the key's row; null has no group. -/
theorem get?_group_keyedObjects {target : Plan.Visit} (remote : OutputColumn)
    (fields : List Plan.Field) {table parent : String}
    (href : s.References target.table remote.column table parent) {v : Sql.Literal}
    (hv : s.Admits table parent v) {keys : List Sql.Literal} (hmem : v ≠ .null → v ∈ keys) :
    ((keyOf v.toJson).bind
        (group (keyedObjects D namespaceName target (some remote) keys fields)).get?).getD []
      = (partners D namespaceName target.table target.primaryKey remote.column v).map fun r =>
          .sortedObj (Plan.valuesOn D namespaceName fields r) := by
  obtain ⟨t, ht, hsource, htarget⟩ := hD.exists_keyType hs href
  have hvt := htarget v hv
  cases hk : keyOf v.toJson with
  | none =>
    obtain rfl := (Sql.Literal.keyOf_toJson_eq_none_iff ht hvt).mp hk
    simp [partners]
  | some k =>
    have hne : v ≠ .null := by
      rintro rfl
      cases hk
    have hsame : ∀ r ∈ D.inOrder namespaceName target.table target.primaryKey,
        (decide (keyOf (r remote.column).toJson = some k) && keys.any (r remote.column).agrees)
          = v.agrees (r remote.column) := by
      intro r hr
      have hrt := hsource _ (hD.typed (mem_rows_of_mem_inOrder.mp hr) remote.column)
      rw [Bool.eq_iff_iff, Bool.and_eq_true, decide_eq_true_eq, List.any_eq_true,
        Sql.Literal.agrees_iff ht hvt hrt]
      constructor
      · rintro ⟨hkey, -⟩
        exact ⟨Sql.Literal.eq_of_keyOf_toJson_eq ht hvt hrt (hk.trans hkey.symm), hne⟩
      · rintro ⟨heq, -⟩
        rw [← heq]
        exact ⟨hk, v, hmem hne, (Sql.Literal.agrees_iff ht hvt hvt).mpr ⟨rfl, hne⟩⟩
    rw [Option.bind_some, get?_group, keyedObjects, List.filter_map, List.map_map, wanted, partners,
      List.filter_filter]
    simp only [Function.comp_def, Option.all_some, Option.bind_some]
    rw [List.filter_congr hsame]

end Lower

/-! ### Emitted fields -/

namespace Component

theorem assemble_one_of_ne_null {row : Row} {subs : List Groups} {field presence : String}
    {children : List Component} {v : Json} (h : row.get? presence = some v) (hv : v ≠ .null) :
    (one field presence children).assemble row subs
      = (field, .sortedObj (assembleFields row subs children)) := by
  rw [assemble, h]
  cases v <;> first | rfl | exact absurd rfl hv

theorem assemble_one_of_eq_null {row : Row} {subs : List Groups} {field presence : String}
    {children : List Component} (h : row.get? presence = some .null) :
    (one field presence children).assemble row subs = (field, .null) := by
  rw [assemble, h]

theorem assemble_many {row : Row} {before after : List Groups} {groups : Groups}
    {field parentKey : String} {slot : Nat} {fetch : Fetch} {components : List Component}
    (h : before.length = slot) :
    (many field parentKey slot fetch components).assemble row (before ++ [groups] ++ after)
      = (field, .arr (((row.key? parentKey).bind groups.get?).getD [])) := by
  have hslot : (before ++ [groups] ++ after)[slot]? = some groups := by
    rw [← h, List.append_assoc, List.getElem?_append_right (Nat.le_refl _), Nat.sub_self]
    rfl
  rw [assemble, hslot]
  rfl

end Component

section Fields

variable {s : Schema} {D : Database} {namespaceName : Option String} (hD : D.Fits s namespaceName)
  (hs : s.WellFormed)

/-- The scopes of a statement: names stand for rows of their tables, and the joins hold. -/
structure Answered (D : Database) (namespaceName : Option String) (s : Schema)
    (root : String × String) (e : Emission) (scopes : List Scope) : Prop where
  inScope : e.Scoped s root
  fits : ∀ scope ∈ scopes, scope.Fits D namespaceName (e.tables root)
  joined : ∀ scope ∈ scopes, ∀ j ∈ e.joins, j.Holds D namespaceName scope

theorem answered_wanted {visit : Plan.Visit} {aliasName : String} {e : Emission}
    (he : e.Scoped s (aliasName, visit.table)) (filter : Option OutputColumn)
    (keys : List Sql.Literal) :
    Answered D namespaceName s (aliasName, visit.table) e
      ((wanted D namespaceName visit filter keys).map
        (scopeOf D namespaceName aliasName e.joins)) := by
  have hall : ∀ scope ∈ (wanted D namespaceName visit filter keys).map
      (scopeOf D namespaceName aliasName e.joins),
      scope.Fits D namespaceName (e.tables (aliasName, visit.table)) ∧
        ∀ j ∈ e.joins, j.Holds D namespaceName scope := by
    intro scope hscope
    obtain ⟨r, hr, rfl⟩ := List.mem_map.mp hscope
    exact scopeOf_holds he (mem_rows_of_mem_inOrder.mp (List.mem_of_mem_filter hr))
  exact ⟨he, fun scope hscope => (hall scope hscope).1, fun scope hscope => (hall scope hscope).2⟩

section Shown

variable {root : String × String} {last : Emission} {scopes : List Scope}
  (hlast : Answered D namespaceName s root last scopes) {scope : Scope} (hscope : scope ∈ scopes)
  {table aliasName foreign field : String} {target : Plan.Visit} {remote : Plan.Column}
  {children : List Plan.Field} {components : List Component}

include hD hs hlast hscope

/-- A field to one row shows the row that its join has found, or null. -/
theorem Answered.assemble_one {localKey presence : String} {subs : List Groups}
    (href : s.References table localKey target.table remote.name)
    (hjoin : ⟨aliasName, localKey, target.table, foreign, remote.name⟩ ∈ last.joins)
    (hpresence : (rowOf last.columns scope).get? presence
      = some (scope (some foreign) remote.name).toJson)
    (hobject : scope (some foreign) ∈ D.rows namespaceName target.table →
      assembleFields (rowOf last.columns scope) subs components
        = Plan.valuesOn D namespaceName children (scope (some foreign))) :
    (Component.one field presence components).assemble (rowOf last.columns scope) subs
      = (Plan.Field.one field target localKey remote children).valueOn D namespaceName
          (scope (some aliasName)) := by
  have hpartner := hlast.joined scope hscope _ hjoin
  rw [JoinStep.Holds, partnerOrNulls] at hpartner
  rw [Plan.Field.valueOn]
  cases hfound : partner? D namespaceName target.table remote.name
      (scope (some aliasName) localKey) with
  | none =>
    rw [hfound] at hpartner
    rw [hpartner] at hpresence
    exact Component.assemble_one_of_eq_null hpresence
  | some r =>
    rw [hfound] at hpartner
    obtain ⟨hr, hagrees⟩ := mem_of_partner?_eq_some hfound
    obtain ⟨t, ht, -, htarget⟩ := hD.exists_keyType hs href
    have hnonnull := Sql.Literal.toJson_ne_null ht (htarget _ (hD.typed hr remote.name))
      (Sql.Literal.ne_null_of_agrees hagrees).2
    rw [hpartner] at hpresence hobject
    rw [Component.assemble_one_of_ne_null hpresence hnonnull, hobject hr]
    rfl

/-- A field to many rows shows the objects in the group of the row's own key. -/
theorem Answered.assemble_many {parent : Plan.Column} {slot : Nat} {fetch : Fetch}
    {before after : List Groups}
    (href : s.References target.table remote.name table parent.name) (hparent : parent.In s table)
    (halias : (aliasName, table) ∈ last.tables root)
    (hname : (parent.output aliasName).name ∈ last.columns.map OutputColumn.name)
    (hbefore : before.length = slot) :
    (Component.many field (parent.output aliasName).name slot fetch components).assemble
        (rowOf last.columns scope)
        (before ++ [group (keyedObjects D namespaceName target (some (remote.output foreign))
          (distinctKeys (scopes.map (rowOf last.columns)) (parent.output aliasName).name) children)]
            ++ after)
      = (Plan.Field.many field target parent remote children).valueOn D namespaceName
          (scope (some aliasName)) := by
  have hadmits := fun scope hscope => (hlast.fits scope hscope).admits hD halias parent.name
  obtain ⟨t, ht, -, htarget⟩ := hD.exists_keyType hs href
  have hgroup := get?_group_keyedObjects hD hs (remote.output foreign) children href
    (hadmits scope hscope) <|
      mem_distinctKeys hlast.inScope (hparent.output halias) hname ht
        (fun scope hscope => htarget _ (hadmits scope hscope)) hscope
  rw [Component.assemble_many hbefore, Row.key?, get?_rowOf hlast.inScope (hparent.output halias) hname,
    Option.bind_some, Plan.Field.valueOn]
  exact congrArg (fun objects => (field, Json.arr objects)) hgroup

end Shown

variable {σ : Type} {source : RowSource σ} {d : Dialect} {q : CompiledQuery}
  (hsource : source.Answers d D q)

/-- What a run does with the components of emitted fields: it ends without an error, and the objects
made of its rows are those that the fields are for. -/
def Plan.RunsTo (D : Database) (namespaceName : Option String) (source : RowSource σ) (d : Dialect)
    (aliasName table : String) (fields : List Plan.Field) (slot : Nat) (components : List Component)
    (columns : List OutputColumn) (scopes : List Scope) (groups : List Groups) : Prop :=
  (∀ state, (runBelow source d components (scopes.map (rowOf columns)) state).1 = .ok groups) ∧
  ∀ before after : List Groups, before.length = slot → ∀ scope ∈ scopes,
    scope (some aliasName) ∈ D.rows namespaceName table →
    assembleFields (rowOf columns scope) (before ++ groups ++ after) components
      = Plan.valuesOn D namespaceName fields (scope (some aliasName))

theorem Plan.RunsTo.cons {aliasName table : String} {f : Plan.Field} {c : Component}
    {fields : List Plan.Field} {components : List Component} {slot next : Nat}
    {columns : List OutputColumn} {scopes : List Scope} (groups : List Groups) {more : List Groups}
    (hrun : ∀ state, (c.runBelow source d (scopes.map (rowOf columns)) state).1 = .ok groups)
    (hvalue : ∀ before after : List Groups, before.length = slot → ∀ scope ∈ scopes,
      scope (some aliasName) ∈ D.rows namespaceName table →
      c.assemble (rowOf columns scope) (before ++ groups ++ after)
        = f.valueOn D namespaceName (scope (some aliasName)))
    (hrest : Plan.RunsTo D namespaceName source d aliasName table fields next components columns scopes
      more) (hnext : next = slot + groups.length) :
    Plan.RunsTo D namespaceName source d aliasName table (f :: fields) slot (c :: components) columns
      scopes (groups ++ more) := by
  refine ⟨runBelow_cons_fst hrun hrest.1, ?_⟩
  intro before after hbefore scope hscope hrow
  have hfirst := hvalue before (more ++ after) hbefore scope hscope hrow
  have hothers := hrest.2 (before ++ groups) after
    (by rw [List.length_append, hbefore, hnext]) scope hscope hrow
  rw [assembleFields, Plan.valuesOn, ← List.append_assoc before, hothers, List.append_assoc _ more,
    hfirst]

include hD hs hsource

/-- A statement is run to an object for each wanted row, if its components are run to what the fields
are for. -/
theorem Statement.run_fst {n : Nat} {visit : Plan.Visit} (filter : Option OutputColumn)
    (keys : List Sql.Literal) {fields : List Plan.Field} {e : Emission} {components : List Component}
    (he : e.Scoped s (aliasOf n, visit.table))
    (hfilter : ∀ c ∈ filter, c.aliasName = aliasOf n ∧ c ∈ e.columns)
    (hfetches : (filter.isSome && keys.isEmpty) = false →
      q.Fetches D ⟨e.fetch namespaceName visit (aliasOf n) filter, components⟩ keys)
    (hfields : ∀ scopes, Answered D namespaceName s (aliasOf n, visit.table) e scopes →
      (∀ sub ∈ subFetchesOf components,
        distinctKeys (scopes.map (rowOf e.columns)) sub.parentKey ≠ [] →
        q.Fetches D sub.statement (distinctKeys (scopes.map (rowOf e.columns)) sub.parentKey)) →
      ∃ groups, Plan.RunsTo D namespaceName source d (aliasOf n) visit.table fields 0 components
        e.columns scopes groups) (state : σ) :
    (Statement.run source d ⟨e.fetch namespaceName visit (aliasOf n) filter, components⟩ keys state).1
      = .ok (keyedObjects D namespaceName visit filter keys fields) := by
  have hanswer := answer_restricted he hD hs (fun c hc => (hfilter c hc).1) keys
  cases hskip : filter.isSome && keys.isEmpty with
  | true =>
    obtain ⟨hsome, hnil⟩ := Bool.and_eq_true_iff.mp hskip
    obtain ⟨c, rfl⟩ := Option.isSome_iff_exists.mp hsome
    obtain rfl := List.isEmpty_iff.mp hnil
    rw [Statement.run_of_skipped hskip]
    simp [keyedObjects, wanted]
  | false =>
    have hfetch := hfetches hskip
    obtain ⟨groups, hrun, hvalues⟩ := hfields _ (answered_wanted he filter keys)
      fun sub hsub hkeys => by
        rw [← hanswer] at hkeys ⊢
        exact .lower hfetch hsub hkeys
    rw [Statement.run_of_fetched hskip ((hsource _ _ hfetch state).trans (congrArg _ hanswer)) hrun,
      Statement.assembleAll, List.map_map, List.map_map, keyedObjects]
    refine congrArg Except.ok (List.map_congr_left fun r hr => ?_)
    have hrow : r ∈ D.rows namespaceName visit.table :=
      mem_rows_of_mem_inOrder.mp (List.mem_of_mem_filter hr)
    have hself : scopeOf D namespaceName (aliasOf n) e.joins r (some (aliasOf n)) = r :=
      scopeOf_self he r
    have hobject := hvalues [] [] rfl _ (List.mem_map.mpr ⟨r, hr, rfl⟩) (by rwa [hself])
    rw [hself, List.nil_append, List.append_nil] at hobject
    have hkey : (filter.bind fun c =>
        (rowOf e.columns (scopeOf D namespaceName (aliasOf n) e.joins r)).key? c.name)
          = filter.bind fun c => keyOf (r c.column).toJson := by
      cases filter with
      | none => rfl
      | some c =>
        obtain ⟨halias, hc⟩ := hfilter c rfl
        rw [Option.bind_some, Option.bind_some, Row.key?,
          get?_rowOf he (he.columns c hc) (List.mem_map_of_mem hc), halias, hself, Option.bind_some]
    exact Prod.ext hkey (congrArg Json.sortedObj hobject)

theorem Plan.Emits.exists_runsTo {aliasName table : String} {fields : List Plan.Field}
    {e e' : Emission} {components : List Component}
    (h : Plan.Emits namespaceName aliasName fields e components e') (hsound : Plan.Sound s table fields)
    {root : String × String} {last : Emission} {scopes : List Scope}
    (hlast : Answered D namespaceName s root last scopes) (hext : e'.Extends last)
    (ha : (aliasName, table) ∈ e.tables root)
    (hfetches : ∀ sub ∈ subFetchesOf components,
      distinctKeys (scopes.map (rowOf last.columns)) sub.parentKey ≠ [] →
      q.Fetches D sub.statement (distinctKeys (scopes.map (rowOf last.columns)) sub.parentKey)) :
    ∃ groups, e'.subFetches = e.subFetches + groups.length ∧
      Plan.RunsTo D namespaceName source d aliasName table fields e.subFetches components last.columns
        scopes groups := by
  induction h generalizing table root last scopes with
  | nil =>
    exact ⟨[], rfl, fun _ => rfl, fun _ _ _ _ _ _ => rfl⟩
  | @scalar aliasName field column rest e e' components hrest ih =>
    cases hsound with
    | scalar hcolumn hsoundRest =>
      have hselect := hrest.extends.trans hext
      have halast := ((Emission.extends_select e _).trans hselect).tables_subset ha
      obtain ⟨groups, hslots, hruns⟩ := ih hsoundRest hlast hext (by rwa [Emission.tables_select])
        hfetches
      rw [Emission.subFetches_select] at hslots hruns
      refine ⟨groups, hslots, .cons [] (fun _ => rfl) ?_ hruns rfl⟩
      intro before after hbefore scope hscope hrow
      rw [Component.assemble, get?_rowOf hlast.inScope (hcolumn.output halast)
        (hselect.names_subset (Emission.name_mem_select _ _))]
      rfl
  | @one aliasName field localKey target remote children rest e below e' components more hchildren
      hrest ihchildren ih =>
    cases hsound with
    | one hvisit href hremote hne hsoundBelow hsoundRest =>
      have hbelow := hrest.extends.trans hext
      have hjoin := Emission.extends_join e aliasName localKey target.table remote.name
      have hselected := hchildren.extends.trans hbelow
      have hjoined := (Emission.extends_select _ _).trans hselected
      have hmem : (aliasOf e.issued, target.table)
          ∈ (e.join aliasName localKey target.table remote.name).tables root := by
        rw [Emission.tables_join]
        exact List.mem_append_right _ (List.mem_singleton_self _)
      obtain ⟨groups, hslots, hrun, hvalues⟩ := ihchildren hsoundBelow hlast hbelow
        (by rwa [Emission.tables_select]) fun sub hsub => hfetches sub (List.mem_append_left _ hsub)
      obtain ⟨groups', hslots', hruns'⟩ := ih hsoundRest hlast hext
        ((hjoin.trans ((Emission.extends_select _ _).trans hchildren.extends)).tables_subset ha)
        fun sub hsub => hfetches sub (List.mem_append_right _ hsub)
      rw [Emission.subFetches_select] at hslots hvalues
      refine ⟨groups ++ groups', ?_, .cons groups hrun ?_ hruns' hslots⟩
      · rw [hslots', hslots, List.length_append, Nat.add_assoc]
        rfl
      intro before after hbefore scope hscope hrow
      refine hlast.assemble_one hD hs hscope href
        (hjoined.joins.subset (List.mem_append_right _ (List.mem_singleton_self _))) ?_ fun hr =>
          hvalues before after hbefore scope hscope hr
      exact get?_rowOf hlast.inScope (hremote.output (hjoined.tables_subset hmem))
        (hselected.names_subset (Emission.name_mem_select _ _)) scope
  | @many aliasName field target parent remote children rest e below e' components more hchildren
      hrest ihchildren ih =>
    cases hsound with
    | many hvisit href hparent hremote hne hsoundBelow hsoundRest =>
      have hissued := (Nat.le_succ _).trans hchildren.extends.issued
      rw [← Emission.issued_select e (parent.output aliasName)] at hissued
      have hselected := (Emission.extends_after _ hissued).trans (hrest.extends.trans hext)
      have haselect : (aliasName, table) ∈ (e.select (parent.output aliasName)).tables root := by
        rwa [Emission.tables_select]
      have halast := hselected.tables_subset haselect
      have hname := hselected.names_subset (Emission.name_mem_select e (parent.output aliasName))
      obtain ⟨groups, hslots, hruns⟩ := ih hsoundRest hlast hext haselect
        fun sub hsub => hfetches sub (List.mem_append_right _ hsub)
      rw [Emission.after, Emission.subFetches_select] at hslots
      have hstart : Emission.Scoped s (aliasOf e.issued, target.table)
          (.start (e.issued + 1) (some (remote.output (aliasOf e.issued)))) :=
        Emission.scoped_start fun c hc =>
          Option.mem_some.mp hc ▸ hremote.output (List.mem_singleton_self _)
      have hobjects := Statement.run_fst hD hs hsource (some (remote.output (aliasOf e.issued)))
        (distinctKeys (scopes.map (rowOf last.columns)) (parent.output aliasName).name)
        (hchildren.scoped hsoundBelow hstart (List.mem_singleton_self _))
        (by
          rintro c hc
          obtain rfl := Option.mem_some.mp hc
          exact ⟨rfl, hchildren.extends.columns.subset (List.mem_singleton_self _)⟩)
        (fun hkeys => hfetches _ (List.mem_append_left _ (List.mem_singleton_self _))
          (List.isEmpty_eq_false_iff.mp hkeys))
        (by
          intro scopes' hscopes' hfetches'
          obtain ⟨groups', -, hruns'⟩ := ihchildren hsoundBelow hscopes' (.refl _)
            (List.mem_singleton_self _) hfetches'
          exact ⟨groups', hruns'⟩)
      refine ⟨[_] ++ groups, ?_, .cons [_]
        (fun state => congrArg Prod.fst (Run.next_eq (hobjects state))) ?_ hruns ?_⟩
      · rw [hslots, List.length_append, Nat.add_assoc]
        rfl
      · intro before after hbefore scope hscope hrow
        exact hlast.assemble_many hD hs hscope href hparent halast hname hbefore
      · rw [Emission.after, Emission.subFetches_select]
        rfl

end Fields

/-- A compiled query answers what its selection asks for, whatever state the source is in, if the
source answers each statement of the run by its rows. -/
theorem CompiledQuery.run_eq_answer {tables : List Catalog.Table} {s : Schema} {g : TypeGraph}
    {sel : Selection} {namespaceName : Option String} {q : CompiledQuery}
    (hs : Schema.ofTables tables = .ok s) (hg : TypeGraph.ofSchema s = .ok g)
    (hq : CompiledQuery.of g sel namespaceName = .ok q) {D : Database} (hD : D.Fits s namespaceName)
    {σ : Type} {source : RowSource σ} {d : Dialect} (hsource : source.Answers d D q) (state : σ) :
    (q.run source d state).1 = .ok (sel.answer D namespaceName g) := by
  have hwell := Schema.wellFormed_of_ofTables hs
  obtain ⟨o, fields, components, e, hroot⟩ := exists_root hwell hg hq
  have hscoped : e.Scoped s (aliasOf 0, o.name) :=
    hroot.emits.scoped hroot.sound (Emission.scoped_start (by simp)) (List.mem_singleton_self _)
  have hobjects : (Statement.run source d q.statement [] state).1
      = .ok (keyedObjects D namespaceName (Plan.visitOf o) none [] fields) := by
    have hfetched : q.Fetches D q.statement [] := .root
    rw [hroot.statement] at hfetched ⊢
    refine Statement.run_fst hD hwell hsource none [] hscoped (by simp) (fun _ => hfetched) ?_ state
    intro scopes hscopes hfetches
    obtain ⟨groups, -, hruns⟩ := hroot.emits.exists_runsTo hD hwell hsource hroot.sound hscopes
      (.refl _) (List.mem_singleton_self _) hfetches
    exact ⟨groups, hruns⟩
  have hwanted : wanted D namespaceName (Plan.visitOf o) none []
      = D.inOrder namespaceName o.name o.primaryKey :=
    List.filter_eq_self.mpr fun _ _ => rfl
  have hanswer : sel.answer D namespaceName g
      = (keyedObjects D namespaceName (Plan.visitOf o) none [] fields).map (·.2) := by
    rw [Selection.answer, hroot.object, keyedObjects, hwanted, List.map_map]
    refine List.map_congr_left fun r _ => ?_
    exact congrArg Json.sortedObj (hroot.checks.valuesOn_eq D namespaceName r)
  rw [hanswer]
  exact congrArg Prod.fst (Run.next_eq hobjects)

/-! ### Sources made of rows -/

section Source

variable (D : Database)

mutual

def Component.fetches : Component → List Row → List (Statement × List Sql.Literal)
  | .row _ _, _ => []
  | .one _ _ children, rows => fetchesOf children rows
  | .many _ parentKey _ fetch components, rows =>
    (⟨fetch, components⟩, distinctKeys rows parentKey) ::
      fetchesOf components ((fetch.restricted (distinctKeys rows parentKey)).answer D)

def fetchesOf : List Component → List Row → List (Statement × List Sql.Literal)
  | [], _ => []
  | c :: rest, rows => c.fetches rows ++ fetchesOf rest rows

end

def CompiledQuery.fetches (q : CompiledQuery) : List (Statement × List Sql.Literal) :=
  (q.statement, []) ::
    fetchesOf D q.statement.components ((q.statement.fetch.restricted []).answer D)

/-- The source that knows a statement by its columns and answers it by its rows. -/
def CompiledQuery.source (q : CompiledQuery) : RowSource Unit := fun _ columns state =>
  match (q.fetches D).find? fun f => f.1.fetch.columns = columns with
  | none => (.ok [], state)
  | some f => (.ok ((f.1.fetch.restricted f.2).answer D), state)

variable {D} {st : Statement} {keys : List Sql.Literal} {sub : SubFetch}

mutual

theorem Component.mem_fetches : (c : Component) → {rows : List Row} → sub ∈ c.subFetches →
    (sub.statement, distinctKeys rows sub.parentKey) ∈ c.fetches D rows
  | .one _ _ children, _, hsub => mem_fetchesOf children hsub
  | .many _ _ _ _ _, _, hsub => by
    obtain rfl := List.mem_singleton.mp hsub
    exact List.mem_cons_self

theorem mem_fetchesOf : (l : List Component) → {rows : List Row} → sub ∈ subFetchesOf l →
    (sub.statement, distinctKeys rows sub.parentKey) ∈ fetchesOf D l rows
  | c :: rest, _, hsub => by
    rcases List.mem_append.mp hsub with hsub | hsub
    · exact List.mem_append_left _ (c.mem_fetches hsub)
    · exact List.mem_append_right _ (mem_fetchesOf rest hsub)

end

mutual

theorem Component.mem_fetches_of_mem : (c : Component) → {rows : List Row} →
    (st, keys) ∈ c.fetches D rows → sub ∈ subFetchesOf st.components →
    (sub.statement, distinctKeys ((st.fetch.restricted keys).answer D) sub.parentKey)
      ∈ c.fetches D rows
  | .one _ _ children, _, hst, hsub => mem_fetchesOf_of_mem children hst hsub
  | .many _ _ _ _ components, _, hst, hsub => by
    rcases List.mem_cons.mp hst with heq | hst
    · obtain ⟨rfl, rfl⟩ := Prod.mk.inj heq
      exact List.mem_cons_of_mem _ (mem_fetchesOf components hsub)
    · exact List.mem_cons_of_mem _ (mem_fetchesOf_of_mem components hst hsub)

theorem mem_fetchesOf_of_mem : (l : List Component) → {rows : List Row} →
    (st, keys) ∈ fetchesOf D l rows → sub ∈ subFetchesOf st.components →
    (sub.statement, distinctKeys ((st.fetch.restricted keys).answer D) sub.parentKey)
      ∈ fetchesOf D l rows
  | c :: rest, _, hst, hsub => by
    rcases List.mem_append.mp hst with hst | hst
    · exact List.mem_append_left _ (c.mem_fetches_of_mem hst hsub)
    · exact List.mem_append_right _ (mem_fetchesOf_of_mem rest hst hsub)

end

theorem CompiledQuery.Fetches.mem_fetches {q : CompiledQuery} (h : q.Fetches D st keys) :
    (st, keys) ∈ q.fetches D := by
  induction h with
  | root => exact List.mem_cons_self
  | lower _ hsub _ ih =>
    rcases List.mem_cons.mp ih with heq | hmem
    · obtain ⟨rfl, rfl⟩ := Prod.mk.inj heq
      exact List.mem_cons_of_mem _ (mem_fetchesOf _ hsub)
    · exact List.mem_cons_of_mem _ (mem_fetchesOf_of_mem _ hmem hsub)

/-- If no two statements have the same columns, the source answers each by its rows. -/
theorem CompiledQuery.source_answers {q : CompiledQuery}
    (h : ((q.fetches D).map fun f => f.1.fetch.columns).Nodup) (d : Dialect) :
    (q.source D).Answers d D q := by
  intro st keys hfetches state
  have hmem := hfetches.mem_fetches
  rw [source]
  cases hfound : (q.fetches D).find? fun f => f.1.fetch.columns = st.fetch.columns with
  | none => exact absurd (decide_eq_true rfl) (List.find?_eq_none.mp hfound _ hmem)
  | some f =>
    have hcolumns : f.1.fetch.columns = st.fetch.columns := by simpa using List.find?_some hfound
    obtain rfl := List.inj_on_of_nodup_map h (List.mem_of_find?_eq_some hfound) hmem hcolumns
    rfl

end Source

def Sql.Literal.number : Sql.Literal → Int
  | .int n => n
  | _ => 0

/-- Customers and their orders. One customer was referred by the other; one order has no customer. -/
def shopRows : Database where
  rows _ table :=
    if table = "customers" then [
      fun c => if c = "id" then .int 8 else if c = "referrer_id" then .int 7 else .null,
      fun c => if c = "id" then .int 7 else if c = "email" then .text "o'hara" else .null]
    else if table = "orders" then [
      fun c => if c = "id" then .int 3 else .null,
      fun c => if c = "id" then .int 1 else if c = "customer_id" then .int 7 else .null,
      fun c => if c = "id" then .int 2 else if c = "customer_id" then .int 8 else .null]
    else []
  le v w := v.number ≤ w.number
  le_trans u v w huv hvw := decide_eq_true ((of_decide_eq_true huv).trans (of_decide_eq_true hvw))
  le_total v w := by simpa using Int.le_total v.number w.number

def referralSelection : Selection := .node "orders" [
  .node "id" [],
  .node "customer_id" [
    .node "email" [],
    .node "orders_on_customer_id" [.node "id" []],
    .node "customers_on_referrer_id" [.node "referrer_id" [.node "id" []]]]]

theorem CompiledQuery.run_referralSelection : ∃ s g q, Schema.ofTables Schema.shopTables = .ok s ∧
    TypeGraph.ofSchema s = .ok g ∧ CompiledQuery.of g referralSelection none = .ok q ∧
    shopRows.Fits s none ∧ (q.source shopRows).Answers .sqlite shopRows q ∧
    (q.run (q.source shopRows) .sqlite ()).1 = .ok (referralSelection.answer shopRows none g) := by
  have htest : ((Schema.ofTables Schema.shopTables).toOption.any fun s =>
      (TypeGraph.ofSchema s).toOption.any fun g =>
        (CompiledQuery.of g referralSelection none).toOption.any fun q =>
          shopRows.fitsTest s none &&
            decide ((q.fetches shopRows).map fun f => f.1.fetch.columns).Nodup) = true := by
    decide +kernel
  obtain ⟨s, g, q, hs, hg, hq, hboth⟩ := exists_of_test htest
  obtain ⟨hfits, hcolumns⟩ := Bool.and_eq_true_iff.mp hboth
  have hD := Sql.Database.fits_of_fitsTest hfits
  have hsource := CompiledQuery.source_answers (of_decide_eq_true hcolumns) .sqlite
  exact ⟨s, g, q, hs, hg, hq, hD, hsource, CompiledQuery.run_eq_answer hs hg hq hD hsource ()⟩

end NestedRows
