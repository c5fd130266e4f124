import NestedRows.Proofs.Query.Answer
import NestedRows.Proofs.Query.Emission
/-!
# The rows of an emitted statement

A statement of a compiled query answers one row for each wanted row of its table: foreign keys lead to
one row at most, so a join continues a row by its partner or by nulls and never repeats it
(`Join.scopes_eq`). The rows of the statement are then those of the table, restricted and put in order,
each shown with the rows that the joins lead to (`answer_restricted`).
-/

namespace NestedRows

open Sql (Database Record Scope)

namespace Sql

@[simp] theorem Scope.bind_self (scope : Scope) (name : Option String) (r : Record) :
    scope.bind name r name = r := if_pos rfl

theorem Scope.bind_of_ne (scope : Scope) {name other : Option String} (r : Record) (h : other ≠ name) :
    scope.bind name r other = scope other := if_neg h

def Scope.Fits (scope : Scope) (D : Database) (namespaceName : Option String)
    (tables : List (String × String)) : Prop :=
  ∀ t ∈ tables, scope (some t.1) = .nulls ∨ scope (some t.1) ∈ D.rows namespaceName t.2

end Sql

section Fits

variable {s : Schema} {D : Database} {namespaceName : Option String} (hD : D.Fits s namespaceName)

include hD

theorem Sql.Scope.Fits.admits {scope : Scope} {tables : List (String × String)}
    (h : scope.Fits D namespaceName tables) {aliasName table : String}
    (hmem : (aliasName, table) ∈ tables) (column : String) :
    s.Admits table column (scope (some aliasName) column) := by
  rcases h _ hmem with hnulls | hrow
  · rw [hnulls]
    exact fun _ _ => trivial
  · exact hD.typed hrow column

variable (hs : s.WellFormed) {table column target remote : String}
  (href : s.References table column target remote)

include hs href

/-- The values on both sides of a foreign key are of one type that is no double. -/
theorem Sql.Database.Fits.exists_keyType : ∃ t : FieldType, t ≠ .float ∧
    (∀ v, s.Admits table column v → v.HasType t) ∧ ∀ v, s.Admits target remote v → v.HasType t := by
  obtain ⟨k, hk⟩ := href.source
  obtain ⟨k', hk', htype⟩ := hs.target_of_references href hk
  refine ⟨k.fieldType, hD.keyTypes href hk, fun v hv => hv k hk, fun v hv => ?_⟩
  rw [← htype]
  exact hv k' hk'

variable {v : Sql.Literal} (hv : s.Admits table column v)

include hv

theorem Sql.Database.Fits.agrees_iff {r : Record} (hr : r ∈ D.rows namespaceName target) :
    v.agrees (r remote) = true ↔ v = r remote ∧ v ≠ .null := by
  obtain ⟨t, ht, hsource, htarget⟩ := hD.exists_keyType hs href
  exact Sql.Literal.agrees_iff ht (hsource v hv) (htarget _ (hD.typed hr remote))

/-- A foreign key leads to one row at most. -/
theorem Sql.Database.Fits.filter_agrees :
    ((D.rows namespaceName target).filter fun r => v.agrees (r remote))
      = (partner? D namespaceName target remote v).toList := by
  have hmem := fun r hr => hD.agrees_iff hs href hv (r := r) hr
  have hdistinct := hD.distinct href
  rw [partner?]
  generalize D.rows namespaceName target = rows at hmem hdistinct
  induction rows with
  | nil => rfl
  | cons r rest ih =>
    rw [List.pairwise_cons] at hdistinct
    have ihrest := ih (fun r' hr' => hmem r' (List.mem_cons_of_mem _ hr')) hdistinct.2
    rw [List.filter_cons, List.find?_cons]
    cases hr : v.agrees (r remote) with
    | false => exact ihrest
    | true =>
      obtain ⟨rfl, hne⟩ := (hmem r List.mem_cons_self).mp hr
      have hrest : (rest.filter fun r' => (r remote).agrees (r' remote)) = [] := by
        rw [List.filter_eq_nil_iff]
        intro r' hr' hagrees
        exact hdistinct.1 r' hr' hne ((hmem r' (List.mem_cons_of_mem _ hr')).mp hagrees).1
      simp [hrest]

end Fits

theorem mem_of_partner?_eq_some {D : Database} {namespaceName : Option String} {table remote : String}
    {v : Sql.Literal} {r : Record} (h : partner? D namespaceName table remote v = some r) :
    r ∈ D.rows namespaceName table ∧ v.agrees (r remote) = true :=
  ⟨List.mem_of_find?_eq_some h, List.find?_some (p := fun r' : Record => v.agrees (r' remote)) h⟩

/-! ### Joins -/

def partnerOrNulls (D : Database) (namespaceName : Option String) (table remote : String)
    (v : Sql.Literal) : Record :=
  (partner? D namespaceName table remote v).getD .nulls

namespace JoinStep

section

variable (D : Database) (namespaceName : Option String)

def extend (scope : Scope) (j : JoinStep) : Scope :=
  scope.bind (some j.aliasName)
    (partnerOrNulls D namespaceName j.table j.remoteKey (scope (some j.owner) j.localKey))

def Holds (j : JoinStep) (scope : Scope) : Prop :=
  scope (some j.aliasName)
    = partnerOrNulls D namespaceName j.table j.remoteKey (scope (some j.owner) j.localKey)

end

theorem fits_extend {D : Database} {namespaceName : Option String} {tables : List (String × String)}
    {j : JoinStep} {scope : Scope} (hscope : scope.Fits D namespaceName tables)
    (hnew : j.aliasName ∉ tables.map Prod.fst) :
    (j.extend D namespaceName scope).Fits D namespaceName (tables ++ [j.entry]) := by
  intro t ht
  rcases List.mem_append.mp ht with ht | ht
  · have hother : some t.1 ≠ some j.aliasName := by
      intro heq
      exact hnew (List.mem_map.mpr ⟨t, ht, Option.some.inj heq⟩)
    rw [extend, Sql.Scope.bind_of_ne _ _ hother]
    exact hscope t ht
  · obtain rfl := List.mem_singleton.mp ht
    rw [extend, entry, Sql.Scope.bind_self, partnerOrNulls]
    cases hpartner : partner? D namespaceName j.table j.remoteKey
        (scope (some j.owner) j.localKey) with
    | none => exact .inl rfl
    | some r => exact .inr (mem_of_partner?_eq_some hpartner).1

variable {s : Schema} {D : Database} {f : Fetch} (hD : D.Fits s f.namespaceName) (hs : s.WellFormed)
  {j : JoinStep} {tables : List (String × String)} (hfrom : j.From s tables)
  (hne : j.owner ≠ j.aliasName) {scope : Scope} (hscope : scope.Fits D f.namespaceName tables)

include hD hs hfrom hne hscope

theorem scopes_eq : (f.join j).scopes D scope = [j.extend D f.namespaceName scope] := by
  obtain ⟨table, hmem, href⟩ := hfrom
  have hon : (f.join j).on.holds ∘ scope.bind (some j.aliasName)
      = fun r => (scope (some j.owner) j.localKey).agrees (r j.remoteKey) := by
    funext r
    simp [Fetch.join, Sql.Expr.holds, Sql.Expr.eval, Sql.Expr.columnOf, Sql.Literal.agrees,
      Sql.Scope.bind_of_ne, hne]
  have hpartners : ((D.rows f.namespaceName j.table).map (scope.bind (some j.aliasName))).filter
      (f.join j).on.holds = (partner? D f.namespaceName j.table j.remoteKey
        (scope (some j.owner) j.localKey)).toList.map (scope.bind (some j.aliasName)) := by
    rw [List.filter_map, hon, hD.filter_agrees hs href (hscope.admits hD hmem j.localKey)]
  have hscopes : (f.join j).scopes D scope
      = let partners := ((D.rows f.namespaceName j.table).map (scope.bind (some j.aliasName))).filter
          (f.join j).on.holds
        if partners.isEmpty then [scope.bind (some j.aliasName) .nulls] else partners := rfl
  rw [hscopes, hpartners, extend, partnerOrNulls]
  cases partner? D f.namespaceName j.table j.remoteKey (scope (some j.owner) j.localKey) <;> rfl

end JoinStep

def extendAll (D : Database) (namespaceName : Option String) (scope : Scope) (joins : List JoinStep) :
    Scope :=
  joins.foldl (JoinStep.extend D namespaceName) scope

/-- Names that are all different: the next one is new, and the later ones are not among those so
far. -/
theorem names_of_nodup {tables : List (String × String)} {j : JoinStep} {rest : List JoinStep}
    (h : ((tables ++ (j :: rest).map JoinStep.entry).map Prod.fst).Nodup) :
    j.aliasName ∉ tables.map Prod.fst ∧
      ((tables ++ [j.entry] ++ rest.map JoinStep.entry).map Prod.fst).Nodup ∧
      ∀ name ∈ (tables ++ [j.entry]).map Prod.fst, ∀ i ∈ rest, some name ≠ some i.aliasName := by
  have happend : tables ++ (j :: rest).map JoinStep.entry
      = tables ++ [j.entry] ++ rest.map JoinStep.entry := by simp
  rw [happend] at h
  refine ⟨?_, h, ?_⟩
  · rw [List.map_append, List.map_append, List.append_assoc, List.nodup_append] at h
    exact fun hmem => h.2.2 _ hmem j.aliasName List.mem_cons_self rfl
  · rw [List.map_append, List.nodup_append] at h
    intro name hname i hi heq
    have hlater : i.aliasName ∈ (rest.map JoinStep.entry).map Prod.fst :=
      List.mem_map.mpr ⟨i.entry, List.mem_map.mpr ⟨i, hi, rfl⟩, rfl⟩
    exact h.2.2 name hname _ hlater (Option.some.inj heq)

section Chain

variable {s : Schema} {D : Database} {f : Fetch} {joins : List JoinStep} {tables : List (String × String)}
  (hchained : Chained s tables joins)
  (hnodup : ((tables ++ joins.map JoinStep.entry).map Prod.fst).Nodup)

theorem extendAll_of_not_mem {namespaceName : Option String} {scope : Scope} {name : Option String}
    (h : ∀ j ∈ joins, name ≠ some j.aliasName) :
    extendAll D namespaceName scope joins name = scope name := by
  induction joins generalizing scope with
  | nil => rfl
  | cons j rest ih =>
    rw [extendAll, List.foldl_cons]
    refine (ih fun i hi => h i (List.mem_cons_of_mem _ hi)).trans ?_
    exact Sql.Scope.bind_of_ne _ _ (h j List.mem_cons_self)

include hchained hnodup

theorem foldl_scopes (hD : D.Fits s f.namespaceName) (hs : s.WellFormed) {scopes : List Scope}
    (hscopes : ∀ scope ∈ scopes, scope.Fits D f.namespaceName tables) :
    (joins.map f.join).foldl (fun scopes j => scopes.flatMap (j.scopes D)) scopes
      = scopes.map fun scope => extendAll D f.namespaceName scope joins := by
  induction joins generalizing tables scopes with
  | nil => simp [extendAll]
  | cons j rest ih =>
    obtain ⟨hfrom, hrest⟩ := hchained
    obtain ⟨hnew, hnames, -⟩ := names_of_nodup hnodup
    have hne : j.owner ≠ j.aliasName := by
      obtain ⟨table, hmem, -⟩ := hfrom
      intro heq
      exact hnew (heq ▸ List.mem_map.mpr ⟨_, hmem, rfl⟩)
    have hfirst : scopes.flatMap ((f.join j).scopes D)
        = scopes.map fun scope => j.extend D f.namespaceName scope := by
      rw [List.map_eq_flatMap]
      refine List.flatMap_congr fun scope hscope => ?_
      exact JoinStep.scopes_eq hD hs hfrom hne (hscopes scope hscope)
    rw [List.map_cons, List.foldl_cons, hfirst, ih hrest hnames, List.map_map]
    · rfl
    · intro scope hscope
      obtain ⟨before, hbefore, rfl⟩ := List.mem_map.mp hscope
      exact JoinStep.fits_extend (hscopes before hbefore) hnew

theorem extendAll_holds {namespaceName : Option String} {scope : Scope}
    (hscope : scope.Fits D namespaceName tables) :
    (extendAll D namespaceName scope joins).Fits D namespaceName
        (tables ++ joins.map JoinStep.entry) ∧
      ∀ j ∈ joins, j.Holds D namespaceName (extendAll D namespaceName scope joins) := by
  induction joins generalizing tables scope with
  | nil =>
    refine ⟨?_, fun j hj => absurd hj List.not_mem_nil⟩
    rw [List.map_nil, List.append_nil]
    exact hscope
  | cons j rest ih =>
    obtain ⟨⟨table, hmem, -⟩, hrest⟩ := hchained
    obtain ⟨hnew, hnames, hlater⟩ := names_of_nodup hnodup
    have howner : j.owner ∈ tables.map Prod.fst := List.mem_map.mpr ⟨_, hmem, rfl⟩
    obtain ⟨hfits, hholds⟩ := ih hrest hnames (JoinStep.fits_extend hscope hnew)
    rw [List.append_assoc] at hfits
    refine ⟨hfits, fun i hi => ?_⟩
    rcases List.mem_cons.mp hi with rfl | hi
    · -- Later joins change neither the partner nor the row that it is a partner of.
      have hkept : ∀ name ∈ (tables ++ [i.entry]).map Prod.fst,
          extendAll D namespaceName scope (i :: rest) (some name)
            = i.extend D namespaceName scope (some name) :=
        fun name hname => extendAll_of_not_mem (hlater name hname)
      have hne : some i.owner ≠ some i.aliasName := fun heq => hnew (Option.some.inj heq ▸ howner)
      rw [JoinStep.Holds, hkept i.aliasName (by simp [JoinStep.entry]),
        hkept i.owner (by rw [List.map_append]; exact List.mem_append_left _ howner), JoinStep.extend,
        Sql.Scope.bind_self, Sql.Scope.bind_of_ne _ _ hne]
    · exact hholds i hi

end Chain

/-! ### Statements -/

/-- The row that shows the given columns of a scope. -/
def rowOf (columns : List OutputColumn) (scope : Scope) : Row :=
  columns.map fun c => (c.name, (scope (some c.aliasName) c.column).toJson)

section Statement

variable (D : Database) (namespaceName : Option String)

/-- The rows of the visited table that a statement is about. -/
def wanted (visit : Plan.Visit) (filter : Option OutputColumn) (keys : List Sql.Literal) :
    List Record :=
  (D.inOrder namespaceName visit.table visit.primaryKey).filter fun r =>
    filter.all fun c => keys.any (r c.column).agrees

def scopeOf (aliasName : String) (joins : List JoinStep) (r : Record) : Scope :=
  extendAll D namespaceName (Scope.bind (fun _ => .nulls) (some aliasName) r) joins

variable {D namespaceName} {s : Schema} {visit : Plan.Visit} {aliasName : String}
  {filter : Option OutputColumn} {e : Emission} (he : e.Scoped s (aliasName, visit.table))

theorem mem_rows_of_mem_inOrder {table : String} {primaryKey : Option String} {r : Record} :
    r ∈ D.inOrder namespaceName table primaryKey ↔ r ∈ D.rows namespaceName table := by
  cases primaryKey with
  | none => rfl
  | some pk => exact List.mem_mergeSort

theorem fits_bind {r : Record} (hr : r ∈ D.rows namespaceName visit.table) :
    (Scope.bind (fun _ => .nulls) (some aliasName) r).Fits D namespaceName
      [(aliasName, visit.table)] := by
  intro t ht
  obtain rfl := List.mem_singleton.mp ht
  exact .inr (by rwa [Sql.Scope.bind_self])

include he

theorem scopeOf_self (r : Record) :
    scopeOf D namespaceName aliasName e.joins r (some aliasName) = r := by
  have hnodup := he.distinct
  rw [Emission.tables, List.map_cons, List.nodup_cons] at hnodup
  rw [scopeOf, extendAll_of_not_mem, Sql.Scope.bind_self]
  intro j hj heq
  refine hnodup.1 ?_
  rw [Option.some.inj heq]
  exact List.mem_map.mpr ⟨j.entry, List.mem_map.mpr ⟨j, hj, rfl⟩, rfl⟩

theorem scopeOf_holds {r : Record} (hr : r ∈ D.rows namespaceName visit.table) :
    (scopeOf D namespaceName aliasName e.joins r).Fits D namespaceName
        (e.tables (aliasName, visit.table)) ∧
      ∀ j ∈ e.joins, j.Holds D namespaceName (scopeOf D namespaceName aliasName e.joins r) :=
  extendAll_holds he.joins he.distinct (fits_bind hr)

theorem joinedScopes_restricted (hD : D.Fits s namespaceName) (hs : s.WellFormed)
    (keys : List Sql.Literal) :
    ((e.fetch namespaceName visit aliasName filter).restricted keys).joinedScopes D
      = (D.rows namespaceName visit.table).map (scopeOf D namespaceName aliasName e.joins) := by
  obtain ⟨condition, hrestricted, -⟩ := restricted_eq (e.fetch namespaceName visit aliasName filter) keys
  have hfits : ∀ scope ∈ (D.rows namespaceName visit.table).map
      (Scope.bind (fun _ => .nulls) (some aliasName)),
      scope.Fits D namespaceName [(aliasName, visit.table)] := by
    intro scope hscope
    obtain ⟨r, hr, rfl⟩ := List.mem_map.mp hscope
    exact fits_bind hr
  rw [hrestricted, Sql.Query.joinedScopes]
  exact (foldl_scopes he.joins he.distinct hD hs hfits).trans List.map_map

theorem keeps_scopeOf (hfilter : ∀ c ∈ filter, c.aliasName = aliasName) (keys : List Sql.Literal)
    (r : Record) :
    ((e.fetch namespaceName visit aliasName filter).restricted keys).keeps
        (scopeOf D namespaceName aliasName e.joins r)
      = filter.all fun c => keys.any (r c.column).agrees := by
  cases filter with
  | none => rfl
  | some c =>
    obtain rfl := hfilter c rfl
    have heval : c.expr.eval (scopeOf D namespaceName c.aliasName e.joins r) = r c.column := by
      rw [OutputColumn.expr, Sql.Expr.columnOf, Sql.Expr.eval, scopeOf_self he]
    change Sql.Expr.holds (.isIn c.expr (keys.map .literal)) _ = _
    rw [Sql.Expr.holds, Sql.Expr.eval, heval, Option.all_some]
    exact Bool.eq_iff_iff.mpr (beq_iff_eq.trans (Sql.evalIn_literals_iff _ _ _))

theorem leAll_scopeOf (keys : List Sql.Literal) (a b : Record) :
    D.leAll
      (((e.fetch namespaceName visit aliasName filter).restricted keys).orderBy.map
        (Sql.Expr.eval (scopeOf D namespaceName aliasName e.joins a)))
      (((e.fetch namespaceName visit aliasName filter).restricted keys).orderBy.map
        (Sql.Expr.eval (scopeOf D namespaceName aliasName e.joins b)))
      = visit.primaryKey.all fun pk => D.le (a pk) (b pk) := by
  obtain ⟨condition, hrestricted, -⟩ := restricted_eq (e.fetch namespaceName visit aliasName filter) keys
  have heval : ∀ (pk : String) (r : Record), (Sql.Expr.columnOf aliasName pk).eval
      (scopeOf D namespaceName aliasName e.joins r) = r pk := by
    intro pk r
    rw [Sql.Expr.columnOf, Sql.Expr.eval, scopeOf_self he]
  have horder : ((e.fetch namespaceName visit aliasName filter).restricted keys).orderBy
      = visit.primaryKey.toList.map fun pk => .columnOf aliasName pk := by
    rw [hrestricted]
    rfl
  rw [horder]
  cases visit.primaryKey with
  | none => rfl
  | some pk => simp [heval, Database.leAll]

omit he in
theorem inOrder_eq_mergeSort (table : String) (primaryKey : Option String) :
    D.inOrder namespaceName table primaryKey = (D.rows namespaceName table).mergeSort fun a b =>
      primaryKey.all fun pk => D.le (a pk) (b pk) := by
  cases primaryKey with
  | none => exact (List.mergeSort_of_pairwise (List.pairwise_of_forall fun _ _ => rfl)).symm
  | some pk => rfl

omit he in
theorem wanted_eq_mergeSort (keys : List Sql.Literal) :
    wanted D namespaceName visit filter keys
      = ((D.rows namespaceName visit.table).filter fun r =>
          filter.all fun c => keys.any (r c.column).agrees).mergeSort fun a b =>
            visit.primaryKey.all fun pk => D.le (a pk) (b pk) := by
  rw [wanted, inOrder_eq_mergeSort, filter_mergeSort]
  · cases visit.primaryKey with
    | none => exact fun _ _ _ _ _ => rfl
    | some pk => exact fun a b c => D.le_trans (a pk) (b pk) (c pk)
  · intro a b
    cases visit.primaryKey with
    | none => rfl
    | some pk => exact D.le_total _ _

omit he in
theorem convert_cast {t : FieldType} {v : Sql.Literal} (hv : v.HasType t) :
    v.convert (OutputColumn.cast t) = v := by
  cases v <;> cases t <;> first | rfl | exact hv.elim

/-- A statement answers a row for each wanted row, with the partners that the joins lead to. -/
theorem answer_restricted (hD : D.Fits s namespaceName) (hs : s.WellFormed)
    (hfilter : ∀ c ∈ filter, c.aliasName = aliasName) (keys : List Sql.Literal) :
    ((e.fetch namespaceName visit aliasName filter).restricted keys).answer D
      = ((wanted D namespaceName visit filter keys).map
          (scopeOf D namespaceName aliasName e.joins)).map (rowOf e.columns) := by
  have hscopes : ((e.fetch namespaceName visit aliasName filter).restricted keys).scopes D
      = (wanted D namespaceName visit filter keys).map
          (scopeOf D namespaceName aliasName e.joins) := by
    rw [Sql.Query.scopes, Sql.Query.keptScopes, joinedScopes_restricted he hD hs, List.filter_map,
      wanted_eq_mergeSort]
    simp only [Function.comp_def, keeps_scopeOf he hfilter]
    refine (List.map_mergeSort fun a _ b _ => ?_).symm
    exact (leAll_scopeOf he keys a b).symm
  rw [Sql.Query.answer, hscopes]
  refine List.map_congr_left fun scope hscope => ?_
  obtain ⟨r, hr, rfl⟩ := List.mem_map.mp hscope
  obtain ⟨condition, hrestricted, -⟩ := restricted_eq (e.fetch namespaceName visit aliasName filter) keys
  have hrow : r ∈ D.rows namespaceName visit.table :=
    mem_rows_of_mem_inOrder.mp (List.mem_of_mem_filter hr)
  rw [hrestricted]
  change (e.columns.map OutputColumn.item).map _ = _
  rw [List.map_map, rowOf]
  refine List.map_congr_left fun c hc => ?_
  obtain ⟨table, hmem, k, hk, htype⟩ := he.columns c hc
  have hv := (scopeOf_holds he hrow).1.admits hD hmem c.column k hk
  rw [htype] at hv
  exact congrArg (fun v => (c.name, Sql.Literal.toJson v)) (convert_cast hv)

end Statement

end NestedRows
