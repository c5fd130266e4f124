import NestedRows.Proofs.Schema.Build
import Mathlib.Data.List.Forall2
/-!
# The order of facts does not matter

A draft is determined by the set of facts that it holds (`Draft.Holds.unique`), and whether facts can be
added at all depends on this set alone. So definitions may be added in any order, and described tables
may be listed in any order, with their columns and foreign keys in any order.
-/

namespace NestedRows

namespace Draft

variable {d d' : Draft} {facts : Set Key}

theorem Holds.key?_of_holds (h : d.Holds facts) (h' : d'.Holds facts) {table column : String} {k : Key}
    (hk : d.key? table column = some k) : d'.key? table column = some k := by
  obtain ⟨rfl, rfl⟩ := h.name hk
  obtain ⟨hne, hg⟩ := h.gathers hk
  obtain ⟨f, hf, hname⟩ := id hne
  obtain ⟨k', hk'⟩ := h'.complete f hf
  rw [hname] at hk'
  have hg' := (h'.gathers hk').2
  rw [h'.key?_name hk'] at hg'
  rw [hk', hg'.unique hg hne]

theorem Holds.get?_of_holds (h : d.Holds facts) (h' : d'.Holds facts) {table : String}
    {columns : SortedMap String Key} (hget : d.tables.get? table = some columns) :
    d'.tables.get? table = some columns := by
  have hcolumns : d.columns table = columns := by rw [Draft.columns, hget, Option.getD_some]
  obtain ⟨column, k, hk⟩ := h.inhabited hget
  have hkey : d'.key? table column = some k := h.key?_of_holds h' (by rw [key?, hcolumns, hk])
  -- a table without columns would be no table of the draft
  cases hget' : d'.tables.get? table with
  | none =>
    rw [key?, Draft.columns, hget'] at hkey
    cases hkey
  | some columns' =>
    have hcolumns' : d'.columns table = columns' := by rw [Draft.columns, hget', Option.getD_some]
    rw [← hcolumns, ← hcolumns']
    congr 1
    apply SortedMap.ext_get?
    intro c
    apply Option.ext
    intro j
    exact ⟨h'.key?_of_holds h, h.key?_of_holds h'⟩

/-- A draft is determined by what it holds. -/
theorem Holds.unique (h : d.Holds facts) (h' : d'.Holds facts) : d = d' := by
  have htables : d.tables = d'.tables := by
    apply SortedMap.ext_get?
    intro table
    apply Option.ext
    intro columns
    exact ⟨h.get?_of_holds h', h'.get?_of_holds h⟩
  cases d
  cases d'
  exact congrArg Draft.mk htables

/-- Two ways of filling a draft fail both, or end with the same draft. -/
inductive Alike : Outcome → Outcome → Prop
  | filled (d : Draft) : Alike (d, none) (d, none)
  | failed (d d' : Draft) (e e' : SchemaError) : Alike (d, some e) (d', some e')

theorem Meets.alike {o o' : Outcome} {held : Set Key} {valid : Prop} (h : Meets o held valid facts)
    (h' : Meets o' held valid facts) : Alike o o' := by
  rcases o with ⟨d, _ | e⟩ <;> rcases o' with ⟨d', _ | e'⟩
  · obtain rfl := h.2.unique h'.2
    exact .filled d
  · exact absurd ⟨h.1, h.2.agree⟩ h'
  · exact absurd ⟨h'.1, h'.2.agree⟩ h
  · exact .failed d d' e e'

theorem Meets.exists_iff {o : Outcome} {held : Set Key} {valid : Prop} (h : Meets o held valid facts) :
    (∃ d, o = (d, none)) ↔ valid ∧ Key.Agree (held ∪ facts) := by
  rcases o with ⟨d, _ | e⟩
  · exact iff_of_true ⟨d, rfl⟩ ⟨h.1, h.2.agree⟩
  · refine iff_of_false ?_ h
    rintro ⟨d', heq⟩
    cases (Prod.mk.inj heq).2

/-- What some definitions state of columns, of their own and of those that they point at. -/
def statedBy (ks : List Key) : Set Key := ⋃ k ∈ ks, k.stated

theorem meets_addKeys (ks : List Key) : Meets (stepAll addKey {} ks) ∅ True (statedBy ks) := by
  refine (adds_addKey.stepAll ks holds_empty).congr ?_ fun _ => rfl
  simp

theorem alike_addKeys {ks ks' : List Key} (h : ks.Perm ks') :
    Alike (stepAll addKey {} ks) (stepAll addKey {} ks') := by
  have hstated : statedBy ks = statedBy ks' := by
    simp only [statedBy, h.mem_iff]
  apply (meets_addKeys ks).alike
  rw [hstated]
  exact meets_addKeys ks'

end Draft

namespace Catalog

/-- The same table, with its columns and its foreign keys in any order. -/
structure Table.Reordered (t t' : Table) : Prop where
  namespaceName : t.namespaceName = t'.namespaceName
  name : t.name = t'.name
  columns : t.columns.Perm t'.columns
  foreignKeys : t.foreignKeys.Perm t'.foreignKeys

/-- The same tables in any order, each with its columns and its foreign keys in any order. -/
def Reordered (tables tables' : List Table) : Prop :=
  ∃ middle, tables.Perm middle ∧ List.Forall₂ Table.Reordered middle tables'

namespace Table.Reordered

variable {t t' : Table} {c : Column} (h : t.Reordered t')

include h

theorem symm : t'.Reordered t :=
  ⟨h.namespaceName.symm, h.name.symm, h.columns.symm, h.foreignKeys.symm⟩

theorem hasKeyOn_iff {column : String} {fk : ForeignKey} :
    t.HasKeyOn column fk ↔ t'.HasKeyOn column fk :=
  and_congr_left fun _ => h.foreignKeys.mem_iff

theorem defines {k : Key} (hk : t.Defines c k) : t'.Defines c k where
  table := hk.table.trans h.name
  column := hk.column
  fieldType := hk.fieldType
  nullable := hk.nullable
  primaryKey := hk.primaryKey
  referencedBy := hk.referencedBy
  declared := hk.declared
  target p hp := by
    simp only [← h.hasKeyOn_iff]
    exact hk.target p hp
  noTarget hp := by
    simp only [← h.hasKeyOn_iff]
    exact hk.noTarget hp

theorem readable (hc : t.Readable c) : t'.Readable c where
  fieldType := hc.fieldType
  name := by
    rw [← h.name]
    exact hc.name
  target fk hfk := hc.target fk (h.hasKeyOn_iff.mpr hfk)

end Table.Reordered

/-- Each table is also listed in `tables'`, up to the order of its columns and foreign keys. -/
def Within (tables tables' : List Table) : Prop := ∀ t ∈ tables, ∃ t' ∈ tables', t.Reordered t'

theorem Reordered.within {tables tables' : List Table} (h : Reordered tables tables') :
    Within tables tables' ∧ Within tables' tables := by
  obtain ⟨middle, hperm, hall⟩ := h
  have hlength := hall.length_eq
  constructor
  · intro t ht
    obtain ⟨i, hi, rfl⟩ := List.mem_iff_getElem.mp (hperm.mem_iff.mp ht)
    exact ⟨tables'[i], List.getElem_mem _, hall.get hi (hlength ▸ hi)⟩
  · intro t ht
    obtain ⟨i, hi, rfl⟩ := List.mem_iff_getElem.mp ht
    have hi' : i < middle.length := hlength ▸ hi
    exact ⟨middle[i], hperm.mem_iff.mpr (List.getElem_mem hi'), (hall.get hi' hi).symm⟩

section Within

variable {tables tables' : List Table} (h : Within tables tables')

include h

theorem Within.facts_subset : facts tables ⊆ facts tables' := by
  rintro f ⟨t, ht, c, hc, k, hk, hf⟩
  obtain ⟨t', ht', hsame⟩ := h t ht
  exact ⟨t', ht', c, hsame.columns.mem_iff.mp hc, k, hsame.defines hk, hf⟩

theorem Within.readable (hread : ∀ t ∈ tables', ∀ c ∈ t.columns, t.Readable c) :
    ∀ t ∈ tables, ∀ c ∈ t.columns, t.Readable c := by
  intro t ht c hc
  obtain ⟨t', ht', hsame⟩ := h t ht
  exact hsame.symm.readable (hread t' ht' c (hsame.columns.mem_iff.mp hc))

end Within

end Catalog

theorem Draft.alike_addTables {tables tables' : List Catalog.Table}
    (h : Catalog.Reordered tables tables') :
    Alike (stepAll addTable {} tables) (stepAll addTable {} tables') := by
  obtain ⟨hto, hfrom⟩ := h.within
  refine (adds_addTables tables holds_empty).alike ?_
  apply (adds_addTables tables' holds_empty).congr
  · exact ⟨hfrom.readable, hto.readable⟩
  · exact fun _ => hto.facts_subset.antisymm hfrom.facts_subset

namespace Schema

/-- Definitions can be added to a draft exactly if nothing that they state contradicts another of them.
In another order they are refused again, or they give the same draft, which is finished with the same
schema of the same fingerprint or refused for the same reason. Tables that are listed in another order are
refused again or have the same schema. -/
theorem indifferent_to_order :
    (∀ ks : List Key, (∃ d, Draft.stepAll Draft.addKey {} ks = (d, none)) ↔
      Key.Agree (Draft.statedBy ks)) ∧
    (∀ ks ks' : List Key, ks.Perm ks' →
      match Draft.stepAll Draft.addKey {} ks, Draft.stepAll Draft.addKey {} ks' with
      | (d, none), (d', none) => d = d' ∧ d.build = d'.build ∧
          d.build.map Schema.fingerprint = d'.build.map Schema.fingerprint
      | (_, some _), (_, some _) => True
      | _, _ => False) ∧
    ∀ tables tables' : List Catalog.Table, Catalog.Reordered tables tables' →
      (Schema.ofTables tables).toOption = (Schema.ofTables tables').toOption := by
  refine ⟨?_, ?_, ?_⟩
  · intro ks
    rw [(Draft.meets_addKeys ks).exists_iff, Set.empty_union, true_and]
  · intro ks ks' h
    have halike := Draft.alike_addKeys h
    generalize Draft.stepAll Draft.addKey {} ks = o at halike ⊢
    generalize Draft.stepAll Draft.addKey {} ks' = o' at halike ⊢
    cases halike with
    | filled d => exact ⟨rfl, rfl, rfl⟩
    | failed => trivial
  · intro tables tables' h
    have halike := Draft.alike_addTables h
    rw [Schema.ofTables, Schema.ofTables]
    generalize Draft.stepAll Draft.addTable {} tables = o at halike ⊢
    generalize Draft.stepAll Draft.addTable {} tables' = o' at halike ⊢
    cases halike with
    | filled d => rfl
    | failed => rfl

/-- An order's customer before the customer, and a late note that somebody points at the customer. -/
def shopKeys : List Key := [
  { name := ⟨"orders", "customer_id", rfl⟩, fieldType := .int
    referencing := some ⟨"customers", "id", rfl⟩ },
  { name := ⟨"customers", "id", rfl⟩, fieldType := .int, nullable := false, primaryKey := true },
  { name := ⟨"customers", "id", rfl⟩, fieldType := .int
    referencedBy := SortedSet.ofList [⟨"customers", "referrer_id", rfl⟩], declared := false }]

/-- The tables of the shop from the last to the first, with everything in them the other way round. -/
def turnedShopTables : List Catalog.Table :=
  shopTables.reverse.map fun t =>
    { t with columns := t.columns.reverse, foreignKeys := t.foreignKeys.reverse }

theorem indifferent_to_order_shop :
    shopKeys.Perm shopKeys.reverse ∧ Catalog.Reordered shopTables turnedShopTables ∧
      (∃ d, Draft.stepAll Draft.addKey {} shopKeys = (d, none) ∧
        Draft.stepAll Draft.addKey {} shopKeys.reverse = (d, none)) ∧
      (Schema.ofTables shopTables).toOption = (Schema.ofTables turnedShopTables).toOption := by
  have hkeys : shopKeys.Perm shopKeys.reverse := (List.reverse_perm _).symm
  have htables : Catalog.Reordered shopTables turnedShopTables := by
    refine ⟨shopTables.reverse, (List.reverse_perm _).symm, ?_⟩
    apply List.forall₂_map_right_iff.mpr
    apply List.forall₂_same.mpr
    exact fun t _ => ⟨rfl, rfl, (List.reverse_perm _).symm, (List.reverse_perm _).symm⟩
  refine ⟨hkeys, htables, ?_, indifferent_to_order.2.2 _ _ htables⟩
  have hsame := indifferent_to_order.2.1 _ _ hkeys
  have hok : (Draft.stepAll Draft.addKey {} shopKeys).2 = none := by decide +kernel
  rcases hd : Draft.stepAll Draft.addKey {} shopKeys with ⟨d, _ | e⟩
  · rw [hd] at hsame
    rcases hd' : Draft.stepAll Draft.addKey {} shopKeys.reverse with ⟨d', _ | e'⟩
    · rw [hd'] at hsame
      obtain ⟨rfl, -⟩ := hsame
      exact ⟨d, rfl, rfl⟩
    · rw [hd'] at hsame
      exact hsame.elim
  · rw [hd] at hok
    cases hok

end Schema

end NestedRows
