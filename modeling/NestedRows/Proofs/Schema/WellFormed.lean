import NestedRows.Proofs.Schema.Build
/-!
# Schemas of described tables

What the type graph relies on, and no more: tables and columns stand under their own names, and each
reference is known on both sides. A schema that was made of described tables is of this kind.
-/

namespace NestedRows

namespace Schema

def Has (s : Schema) (table column : String) (k : Key) : Prop :=
  ∃ t, s.tables.get? table = some t ∧ t.columns.get? column = some k

theorem has_iff_column? {s : Schema} {n : QualifiedName} {k : Key} :
    s.Has n.table n.column k ↔ s.column? n = some k :=
  column?_eq_some_iff.symm

theorem Has.unique {s : Schema} {table column : String} {k k' : Key} (h : s.Has table column k)
    (h' : s.Has table column k') : k = k' := by
  obtain ⟨t, ht, hk⟩ := h
  obtain ⟨t', ht', hk'⟩ := h'
  obtain rfl := Option.some.inj (ht.symm.trans ht')
  exact Option.some.inj (hk.symm.trans hk')

structure WellFormed (s : Schema) : Prop where
  tableName : ∀ {name t}, s.tables.get? name = some t → t.name = name
  keyName : ∀ {table column k}, s.Has table column k → k.name.table = table ∧ k.name.column = column
  linked : s.Linked

/-- The column is a foreign key to `remote` of the table `target`. -/
def References (s : Schema) (table column target remote : String) : Prop :=
  ∃ k p, s.Has table column k ∧ k.referencing = some p ∧ p.table = target ∧ p.column = remote

theorem References.source {s : Schema} {table column target remote : String}
    (h : s.References table column target remote) : ∃ k, s.Has table column k := by
  obtain ⟨k, -, hk, -⟩ := h
  exact ⟨k, hk⟩

theorem wellFormed_of_ofTables {tables : List Catalog.Table} {s : Schema}
    (h : Schema.ofTables tables = .ok s) : s.WellFormed := by
  obtain ⟨hconsistent, hdescribes⟩ := consistent_and_describes_of_ofTables h
  refine ⟨hdescribes.tableName, ?_, hdescribes.linked hconsistent⟩
  rintro table column k ⟨t, ht, hk⟩
  exact hdescribes.columnName ht hk

variable {s : Schema} (hs : s.WellFormed)

include hs

theorem WellFormed.column?_of_has {table column : String} {k : Key} (h : s.Has table column k) :
    s.column? k.name = some k := by
  rw [← has_iff_column?, (hs.keyName h).1, (hs.keyName h).2]
  exact h

theorem WellFormed.exists_target {table column : String} {k : Key} (h : s.Has table column k)
    {p : QualifiedName} (hp : k.referencing = some p) :
    ∃ k', s.Has p.table p.column k' ∧ k.name ∈ k'.referencedBy ∧ k'.fieldType = k.fieldType := by
  obtain ⟨k', hk', hmem, htype⟩ := hs.linked.target (hs.column?_of_has h) hp
  exact ⟨k', has_iff_column?.mpr hk', hmem, htype⟩

theorem WellFormed.exists_source {table column : String} {k : Key} (h : s.Has table column k)
    {m : QualifiedName} (hm : m ∈ k.referencedBy) :
    ∃ k', s.Has m.table m.column k' ∧ k'.referencing = some k.name := by
  obtain ⟨k', hk', href⟩ := hs.linked.source (hs.column?_of_has h) hm
  exact ⟨k', has_iff_column?.mpr hk', href⟩

theorem WellFormed.target_of_references {table column target remote : String} {k : Key}
    (h : s.References table column target remote) (hk : s.Has table column k) :
    ∃ k', s.Has target remote k' ∧ k'.fieldType = k.fieldType := by
  obtain ⟨j, p, hj, hp, rfl, rfl⟩ := h
  obtain rfl := hk.unique hj
  obtain ⟨k', hk', -, htype⟩ := hs.exists_target hj hp
  exact ⟨k', hk', htype⟩

theorem WellFormed.references_of_mem_referencedBy {table column : String} {k : Key}
    (h : s.Has table column k) {m : QualifiedName} (hm : m ∈ k.referencedBy) :
    s.References m.table m.column table column := by
  obtain ⟨k', hk', href⟩ := hs.exists_source h hm
  exact ⟨k', k.name, hk', href, hs.keyName h⟩

end Schema

end NestedRows
