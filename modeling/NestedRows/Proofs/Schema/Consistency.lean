import NestedRows.Schema.Basic
import NestedRows.Proofs.Schema.Described
/-!
# Consistent descriptions

Which described tables make a schema, and which schema they make. Both are said of the tables as they
are listed, with repetition and in any order, and without a draft.
-/

namespace NestedRows

namespace Catalog

/-- Some entry of the table lists the column `c` under the name `n`. -/
def Lists (tables : List Table) (n : QualifiedName) (c : Column) : Prop :=
  ∃ t ∈ tables, t.name = n.table ∧ c ∈ t.columns ∧ c.name = n.column

/-- Some entry of the table lists the column `n` and has a foreign key from it to `p`. -/
def Links (tables : List Table) (n p : QualifiedName) : Prop :=
  ∃ t ∈ tables, t.name = n.table ∧ (∃ c ∈ t.columns, c.name = n.column) ∧
    ∃ fk ∈ t.foreignKeys, fk.column = n.column ∧ fk.referencedTable = p.table ∧
      fk.referencedColumn = p.column

/-- Described tables that do not contradict each other and leave no reference open. -/
structure Consistent (tables : List Table) : Prop where
  /-- Every declared type is one of the scalar types. -/
  typed : ∀ t ∈ tables, ∀ c ∈ t.columns, ∃ fieldType, FieldType.ofNative? c.nativeType = some fieldType
  named : ∀ t ∈ tables, ∀ c ∈ t.columns, isNamePart t.name = true ∧ isNamePart c.name = true
  targetsNamed : ∀ t ∈ tables, ∀ c ∈ t.columns, ∀ fk ∈ t.foreignKeys, fk.column = c.name →
    isNamePart fk.referencedTable = true ∧ isNamePart fk.referencedColumn = true
  oneType : ∀ {n c c'}, Lists tables n c → Lists tables n c' →
    FieldType.ofNative? c.nativeType = FieldType.ofNative? c'.nativeType
  targetsListed : ∀ {n p c}, Links tables n p → Lists tables n c →
    ∃ c', Lists tables p c' ∧ FieldType.ofNative? c'.nativeType = FieldType.ofNative? c.nativeType
  oneTarget : ∀ {n p q}, Links tables n p → Links tables n q → p = q
  onePrimaryKey : ∀ {m n c c'}, Lists tables m c → Lists tables n c' → m.table = n.table →
    c.primaryKey = true → c'.primaryKey = true → m = n

end Catalog

namespace Schema

/-- The schema says of each listed column what its entries say together, and nothing else. -/
structure Describes (s : Schema) (tables : List Catalog.Table) : Prop where
  tableName : ∀ {name t}, s.tables.get? name = some t → t.name = name
  columnName : ∀ {name t column k}, s.tables.get? name = some t → t.columns.get? column = some k →
    k.name.table = name ∧ k.name.column = column
  inhabited : ∀ {name t}, s.tables.get? name = some t → ∃ column k, t.columns.get? column = some k
  listed : ∀ n, (∃ k, s.column? n = some k) ↔ ∃ c, Catalog.Lists tables n c
  declared : ∀ {n k}, s.column? n = some k → k.declared = true
  fieldType : ∀ {n k}, s.column? n = some k →
    ∀ {c}, Catalog.Lists tables n c → FieldType.ofNative? c.nativeType = some k.fieldType
  nullable : ∀ {n k}, s.column? n = some k →
    (k.nullable = true ↔ ∀ c, Catalog.Lists tables n c → c.nullable = true)
  primaryKey : ∀ {n k}, s.column? n = some k →
    (k.primaryKey = true ↔ ∃ c, Catalog.Lists tables n c ∧ c.primaryKey = true)
  referencing : ∀ {n k}, s.column? n = some k → ∀ p, k.referencing = some p ↔ Catalog.Links tables n p
  referencedBy : ∀ {n k}, s.column? n = some k → ∀ m, m ∈ k.referencedBy ↔ Catalog.Links tables m n

/-- Both sides of every reference know of each other and have one type. -/
structure Linked (s : Schema) : Prop where
  target : ∀ {n k p}, s.column? n = some k → k.referencing = some p →
    ∃ k', s.column? p = some k' ∧ n ∈ k'.referencedBy ∧ k'.fieldType = k.fieldType
  source : ∀ {n k m}, s.column? n = some k → m ∈ k.referencedBy →
    ∃ k', s.column? m = some k' ∧ k'.referencing = some n

end Schema

/-! ### What the tables list and what they say -/

namespace Catalog

variable {tables : List Table}

theorem Table.Defines.lists {t : Table} {c : Column} {k : Key} (h : t.Defines c k) (ht : t ∈ tables)
    (hc : c ∈ t.columns) : Lists tables k.name c :=
  ⟨t, ht, h.table.symm, hc, h.column.symm⟩

theorem Table.Defines.links {t : Table} {c : Column} {k : Key} (h : t.Defines c k) (ht : t ∈ tables)
    (hc : c ∈ t.columns) {p : QualifiedName} (hp : k.referencing = some p) :
    Links tables k.name p := by
  obtain ⟨fk, hfk, htable, hcolumn⟩ := h.target p hp
  exact ⟨t, ht, h.table.symm, ⟨c, hc, h.column.symm⟩, fk, hfk.1, hfk.2.trans h.column.symm, htable,
    hcolumn⟩

theorem Table.Readable.exists_defines {t : Table} {c : Column} (h : t.Readable c) :
    ∃ k, t.Defines c k := by
  obtain ⟨fieldType, htype⟩ := h.fieldType
  obtain ⟨n, hn⟩ := h.name
  by_cases hkey : ∃ fk, t.HasKeyOn c.name fk
  · obtain ⟨fk, hfk⟩ := hkey
    obtain ⟨p, hp⟩ := h.target fk hfk
    exact ⟨_, (Table.defines_iff hn htype _).mpr (.inr ⟨fk, hfk, p, hp.1, hp.2, rfl⟩)⟩
  · exact ⟨_, (Table.defines_iff hn htype _).mpr (.inl ⟨rfl, not_exists.mp hkey⟩)⟩

theorem Lists.exists_defines (hread : ∀ t ∈ tables, ∀ c ∈ t.columns, t.Readable c)
    {n : QualifiedName} {c : Column} (h : Lists tables n c) :
    ∃ t ∈ tables, c ∈ t.columns ∧ ∃ k, t.Defines c k ∧ k.name = n := by
  obtain ⟨t, ht, htable, hc, hcolumn⟩ := h
  obtain ⟨k, hk⟩ := (hread t ht c hc).exists_defines
  exact ⟨t, ht, hc, k, hk,
    QualifiedName.ext_parts (hk.table.trans htable) (hk.column.trans hcolumn)⟩

theorem Links.exists_defines (hread : ∀ t ∈ tables, ∀ c ∈ t.columns, t.Readable c)
    {n p : QualifiedName} (h : Links tables n p) :
    ∃ t ∈ tables, ∃ c ∈ t.columns, ∃ k, t.Defines c k ∧ k.name = n ∧ k.referencing = some p := by
  obtain ⟨t, ht, htable, ⟨c, hc, hcolumn⟩, fk, hfk, hon, hpt, hpc⟩ := h
  obtain ⟨fieldType, htype⟩ := (hread t ht c hc).fieldType
  have hn : n.table = t.name ∧ n.column = c.name := ⟨htable.symm, hcolumn.symm⟩
  have hkey : t.HasKeyOn c.name fk := ⟨hfk, hon.trans hcolumn.symm⟩
  exact ⟨t, ht, c, hc, _,
    (Table.defines_iff hn htype _).mpr (.inr ⟨fk, hkey, p, hpt.symm, hpc.symm, rfl⟩), rfl, rfl⟩

theorem Table.Defines.mem_facts {t : Table} {c : Column} {k : Key} (h : t.Defines c k)
    (ht : t ∈ tables) (hc : c ∈ t.columns) : k ∈ facts tables :=
  ⟨t, ht, c, hc, k, h, .inl rfl⟩

theorem Table.Defines.placeholder_mem_facts {t : Table} {c : Column} {k : Key} (h : t.Defines c k)
    (ht : t ∈ tables) (hc : c ∈ t.columns) {p : QualifiedName} (hp : k.referencing = some p) :
    Key.placeholder p k ∈ facts tables :=
  ⟨t, ht, c, hc, k, h, .inr ⟨p, hp, rfl⟩⟩

/-- What is said of a column without declaring it is said by a foreign key that leads to it. -/
theorem mem_facts_cases {f : Key} (hf : f ∈ facts tables) :
    ∃ t ∈ tables, ∃ c ∈ t.columns, ∃ k, t.Defines c k ∧
      (f = k ∨ ∃ p, k.referencing = some p ∧ f = Key.placeholder p k) := by
  obtain ⟨t, ht, c, hc, k, hk, hf⟩ := hf
  exact ⟨t, ht, c, hc, k, hk, hf⟩

theorem exists_defines_of_declared {f : Key} (hf : f ∈ facts tables) (hd : f.declared = true) :
    ∃ t ∈ tables, ∃ c ∈ t.columns, t.Defines c f := by
  obtain ⟨t, ht, c, hc, k, hk, rfl | ⟨p, -, rfl⟩⟩ := mem_facts_cases hf
  · exact ⟨t, ht, c, hc, hk⟩
  · cases hd

/-! ### Consistent tables can be added to a draft -/

theorem Consistent.readable (h : Consistent tables) :
    ∀ t ∈ tables, ∀ c ∈ t.columns, t.Readable c := by
  intro t ht c hc
  refine ⟨h.typed t ht c hc, QualifiedName.exists_new_iff.mpr (h.named t ht c hc), ?_⟩
  rintro fk ⟨hfk, hon⟩
  exact QualifiedName.exists_new_iff.mpr (h.targetsNamed t ht c hc fk hfk hon)

/-- Whatever is said of a column, a listed column of its name has the type that is said. -/
theorem Consistent.exists_lists (h : Consistent tables) {f : Key} (hf : f ∈ facts tables) :
    ∃ c, Lists tables f.name c ∧ FieldType.ofNative? c.nativeType = some f.fieldType := by
  obtain ⟨t, ht, c, hc, k, hk, rfl | ⟨p, hp, rfl⟩⟩ := mem_facts_cases hf
  · exact ⟨c, hk.lists ht hc, hk.fieldType⟩
  · obtain ⟨c', hc', htype⟩ := h.targetsListed (hk.links ht hc hp) (hk.lists ht hc)
    exact ⟨c', hc', htype.trans hk.fieldType⟩

theorem links_of_mem_facts {f : Key} (hf : f ∈ facts tables) {p : QualifiedName}
    (hp : f.referencing = some p) : Links tables f.name p := by
  obtain ⟨t, ht, c, hc, k, hk, rfl | ⟨q, -, rfl⟩⟩ := mem_facts_cases hf
  · exact hk.links ht hc hp
  · cases hp

theorem Consistent.agree (h : Consistent tables) : Key.Agree (facts tables) := by
  intro f hf g hg hname
  obtain ⟨c, hc, hctype⟩ := h.exists_lists hf
  obtain ⟨c', hc', hctype'⟩ := h.exists_lists hg
  refine ⟨hname, ?_, ?_⟩
  · exact Option.some.inj (hctype.symm.trans ((h.oneType hc (hname ▸ hc')).trans hctype'))
  · intro p q hp hq
    exact h.oneTarget (links_of_mem_facts hf hp) (hname ▸ links_of_mem_facts hg hq)

end Catalog

end NestedRows
