import NestedRows.Proofs.Schema.Facts
import NestedRows.Proofs.Schema.QualifiedName
/-!
# What described tables say

A listed column is stated once for each foreign key on it, or once without a reference if there is
none. A statement with a reference says two things: the column itself, and a placeholder for its
target. Adding described tables to a draft adds just these statements (`Draft.adds_addTable`).
-/

namespace NestedRows

/-- The definitions that a definition makes of columns: itself, and what it says of its target. -/
def Key.stated (k : Key) : Set Key :=
  {f | f = k ∨ ∃ target, k.referencing = some target ∧ f = Key.placeholder target k}

namespace Catalog

def Table.HasKeyOn (t : Table) (column : String) (fk : ForeignKey) : Prop :=
  fk ∈ t.foreignKeys ∧ fk.column = column

/-- `k` is a definition of the listed column `c`, with the target of one of its foreign keys if it
has any. -/
structure Table.Defines (t : Table) (c : Column) (k : Key) : Prop where
  table : k.name.table = t.name
  column : k.name.column = c.name
  fieldType : FieldType.ofNative? c.nativeType = some k.fieldType
  nullable : k.nullable = c.nullable
  primaryKey : k.primaryKey = c.primaryKey
  referencedBy : k.referencedBy = ∅
  declared : k.declared = true
  target : ∀ p, k.referencing = some p →
    ∃ fk, t.HasKeyOn c.name fk ∧ fk.referencedTable = p.table ∧ fk.referencedColumn = p.column
  noTarget : k.referencing = none → ∀ fk, ¬ t.HasKeyOn c.name fk

/-- The type and the names that a listed column needs are there. -/
structure Table.Readable (t : Table) (c : Column) : Prop where
  fieldType : ∃ fieldType, FieldType.ofNative? c.nativeType = some fieldType
  name : ∃ n : QualifiedName, n.table = t.name ∧ n.column = c.name
  target : ∀ fk, t.HasKeyOn c.name fk →
    ∃ p : QualifiedName, p.table = fk.referencedTable ∧ p.column = fk.referencedColumn

def Column.key (c : Column) (n : QualifiedName) (fieldType : FieldType) : Key :=
  { name := n, fieldType, nullable := c.nullable, primaryKey := c.primaryKey }

/-- The definitions of a listed column of which the name and the type are known. -/
theorem Table.defines_iff {t : Table} {c : Column} {n : QualifiedName} {fieldType : FieldType}
    (hn : n.table = t.name ∧ n.column = c.name)
    (htype : FieldType.ofNative? c.nativeType = some fieldType) (k : Key) :
    t.Defines c k ↔ (k = c.key n fieldType ∧ ∀ fk, ¬ t.HasKeyOn c.name fk) ∨
      ∃ fk, t.HasKeyOn c.name fk ∧ ∃ p : QualifiedName, p.table = fk.referencedTable ∧
        p.column = fk.referencedColumn ∧ k = { c.key n fieldType with referencing := some p } := by
  constructor
  · intro h
    have hkey : k = { c.key n fieldType with referencing := k.referencing } := by
      have hname : k.name = n := QualifiedName.ext_parts (h.table.trans hn.1.symm)
        (h.column.trans hn.2.symm)
      have hfieldType : k.fieldType = fieldType := Option.some.inj (h.fieldType.symm.trans htype)
      have hnullable := h.nullable
      have hprimaryKey := h.primaryKey
      have hreferencedBy := h.referencedBy
      have hdeclared := h.declared
      cases k
      simp_all [Column.key]
    cases hr : k.referencing with
    | none =>
      rw [hr] at hkey
      exact .inl ⟨hkey, h.noTarget hr⟩
    | some p =>
      rw [hr] at hkey
      obtain ⟨fk, hfk, htable, hcolumn⟩ := h.target p hr
      exact .inr ⟨fk, hfk, p, htable.symm, hcolumn.symm, hkey⟩
  · rintro (⟨rfl, hno⟩ | ⟨fk, hfk, p, htable, hcolumn, rfl⟩)
    · exact ⟨hn.1, hn.2, htype, rfl, rfl, rfl, rfl, (nomatch ·, ·), fun _ => hno⟩
    · refine ⟨hn.1, hn.2, htype, rfl, rfl, rfl, rfl, ?_, fun hp => nomatch hp⟩
      intro q hq
      obtain rfl := Option.some.inj hq
      exact ⟨fk, hfk, htable.symm, hcolumn.symm⟩

def Table.columnFacts (t : Table) (c : Column) : Set Key := {f | ∃ k, t.Defines c k ∧ f ∈ k.stated}

/-- What described tables say. -/
def facts (tables : List Table) : Set Key := {f | ∃ t ∈ tables, ∃ c ∈ t.columns, f ∈ t.columnFacts c}

end Catalog

namespace Draft

theorem adds_addKey : Adds addKey (fun _ => True) Key.stated := by
  intro d held k hd
  rw [addKey]
  cases hr : k.referencing with
  | none =>
    refine (adds_mergeKey k hd).congr Iff.rfl fun _ => ?_
    ext f
    simp [Key.stated, hr]
  | some target =>
    refine (adds_mergeKey.stepAll [Key.placeholder target k, k] hd).congr (by simp) fun _ => ?_
    ext f
    simp [Key.stated, hr, or_comm]

theorem adds_addReference (k : Key) :
    Adds (addReference k)
      (fun fk => ∃ p : QualifiedName, p.table = fk.referencedTable ∧ p.column = fk.referencedColumn)
      fun fk => {f | ∃ p : QualifiedName, p.table = fk.referencedTable ∧
        p.column = fk.referencedColumn ∧ f ∈ { k with referencing := some p }.stated} := by
  intro d held fk hd
  rw [addReference]
  cases hnew : QualifiedName.new fk.referencedTable fk.referencedColumn with
  | error e =>
    rintro ⟨⟨p, hp⟩, -⟩
    rw [QualifiedName.new_eq_ok_iff.mpr hp] at hnew
    cases hnew
  | ok p =>
    have hp := QualifiedName.new_eq_ok_iff.mp hnew
    refine (adds_addKey { k with referencing := some p } hd).congr (iff_true_intro ⟨p, hp⟩) fun _ => ?_
    ext f
    constructor
    · rintro ⟨q, hqt, hqc, hf⟩
      obtain rfl := QualifiedName.ext_parts (hqt.trans hp.1.symm) (hqc.trans hp.2.symm)
      exact hf
    · exact fun hf => ⟨p, hp.1, hp.2, hf⟩

/-- A listed column adds what it says, and it can be added if it is readable. -/
theorem adds_addDescribedColumn (t : Catalog.Table) :
    Adds (addDescribedColumn t) t.Readable t.columnFacts := by
  intro d held c hd
  rw [addDescribedColumn]
  cases htype : FieldType.ofNative? c.nativeType with
  | none =>
    rintro ⟨hreadable, -⟩
    obtain ⟨fieldType, hsome⟩ := hreadable.fieldType
    rw [htype] at hsome
    cases hsome
  | some fieldType =>
    cases hnew : QualifiedName.new t.name c.name with
    | error e =>
      rintro ⟨hreadable, -⟩
      obtain ⟨n, hn⟩ := hreadable.name
      rw [QualifiedName.new_eq_ok_iff.mpr hn] at hnew
      cases hnew
    | ok n =>
      have hn := QualifiedName.new_eq_ok_iff.mp hnew
      have hdefines := Catalog.Table.defines_iff hn htype
      have hkeys : ∀ fk, t.HasKeyOn c.name fk ↔ fk ∈ t.foreignKeys.filter (·.column = c.name) := by
        intro fk
        simp [Catalog.Table.HasKeyOn]
      have hreadable : t.Readable c ↔ ∀ fk, t.HasKeyOn c.name fk →
          ∃ p : QualifiedName, p.table = fk.referencedTable ∧ p.column = fk.referencedColumn :=
        ⟨Catalog.Table.Readable.target, fun h => ⟨⟨fieldType, htype⟩, ⟨n, hn⟩, h⟩⟩
      cases hfks : t.foreignKeys.filter (·.column = c.name) with
      | nil =>
        have hno : ∀ fk, ¬ t.HasKeyOn c.name fk := by simp [hkeys, hfks]
        refine (adds_addKey (c.key n fieldType) hd).congr (by simp [hreadable, hno]) fun _ => ?_
        ext f
        simp [Catalog.Table.columnFacts, hdefines, hno]
      | cons fk rest =>
        have hsome : ¬ ∀ fk, ¬ t.HasKeyOn c.name fk := by
          intro hno
          exact hno fk ((hkeys fk).mpr (hfks ▸ List.mem_cons_self))
        refine ((adds_addReference (c.key n fieldType)).stepAll (fk :: rest) hd).congr ?_ fun _ => ?_
        · rw [hreadable, ← hfks]
          simp only [hkeys]
        · rw [← hfks]
          ext f
          constructor
          · rintro ⟨k, hk, hf⟩
            rcases (hdefines k).mp hk with ⟨-, hno⟩ | ⟨fk, hfk, p, htable, hcolumn, rfl⟩
            · exact absurd hno hsome
            · exact Set.mem_iUnion₂.mpr ⟨fk, (hkeys fk).mp hfk, p, htable, hcolumn, hf⟩
          · intro hf
            obtain ⟨fk, hfk, p, htable, hcolumn, hf⟩ := Set.mem_iUnion₂.mp hf
            have hk := (hdefines _).mpr (.inr ⟨fk, (hkeys fk).mpr hfk, p, htable, hcolumn, rfl⟩)
            exact ⟨_, hk, hf⟩

theorem adds_addTable : Adds addTable (fun t => ∀ c ∈ t.columns, t.Readable c) fun t =>
    ⋃ c ∈ t.columns, t.columnFacts c :=
  fun _ _ t hd => (adds_addDescribedColumn t).stepAll t.columns hd

theorem adds_addTables : Adds (stepAll addTable)
    (fun tables => ∀ t ∈ tables, ∀ c ∈ t.columns, t.Readable c) Catalog.facts := by
  intro d held tables hd
  refine (adds_addTable.stepAll tables hd).congr Iff.rfl fun _ => ?_
  ext f
  simp [Catalog.facts]

end Draft

end NestedRows
