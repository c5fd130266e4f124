import NestedRows.Proofs.Schema.Consistency
/-!
# The schema of described tables

A draft that holds what tables say is finished without an error if every column in it is declared and
no table has two primary keys. With what `Draft.adds_addTables` says of filling the draft this decides
which tables have a schema, and the finished schema describes them.
-/

namespace NestedRows

namespace Draft

theorem tableError?_eq_none_iff {table : String} {columns : SortedMap String Key} :
    tableError? table columns = none ↔
      (∀ c k, columns.get? c = some k → k.declared = true) ∧
      ∀ c c' k k', columns.get? c = some k → columns.get? c' = some k' →
        k.primaryKey = true → k'.primaryKey = true → c = c' := by
  rw [← SortedMap.length_filter_values_le_one_iff (p := Key.primaryKey), tableError?]
  cases hfind : columns.values.find? (!·.declared) with
  | some stub =>
    have hstub := List.find?_some hfind
    obtain ⟨c, hc⟩ := SortedMap.mem_values.mp (List.mem_of_find?_eq_some hfind)
    simp only [reduceCtorEq, false_iff, not_and]
    intro hall
    simp [hall c stub hc] at hstub
  | none =>
    have hall : ∀ c k, columns.get? c = some k → k.declared = true := by
      intro c k hk
      have := List.find?_eq_none.mp hfind k (SortedMap.mem_values.mpr ⟨c, hk⟩)
      simpa using this
    rw [and_iff_right hall]
    rcases columns.values.filter Key.primaryKey with _ | ⟨first, _ | ⟨second, more⟩⟩ <;> simp

def finished (d : Draft) : Schema := ⟨d.tables.mapValues fun name columns => ⟨name, columns⟩⟩

theorem build_eq_ok_iff {d : Draft} {s : Schema} :
    d.build = .ok s ↔
      (∀ table columns, d.tables.get? table = some columns → tableError? table columns = none) ∧
      s = d.finished := by
  rw [build]
  cases hfind : d.tables.toList.findSome? fun e => tableError? e.1 e.2 with
  | some e =>
    obtain ⟨⟨table, columns⟩, hmem, he⟩ := List.exists_of_findSome?_eq_some hfind
    have hget := SortedMap.get?_eq_some_iff.mpr hmem
    simp only [reduceCtorEq, false_iff, not_and]
    intro hall
    rw [hall table columns hget] at he
    cases he
  | none =>
    have hall : ∀ table columns, d.tables.get? table = some columns → tableError? table columns = none :=
      fun table columns hget =>
        List.findSome?_eq_none_iff.mp hfind (table, columns) (SortedMap.get?_eq_some_iff.mp hget)
    simp only [Except.ok.injEq, finished]
    exact ⟨fun h => ⟨hall, h.symm⟩, fun h => h.2.symm⟩

theorem get?_finished {d : Draft} {name : String} {t : Schema.Table} :
    d.finished.tables.get? name = some t ↔
      ∃ columns, d.tables.get? name = some columns ∧ t = ⟨name, columns⟩ := by
  rw [finished, SortedMap.get?_mapValues, Option.map_eq_some_iff]
  simp only [eq_comm]

theorem column?_finished (d : Draft) (n : QualifiedName) :
    d.finished.column? n = d.key? n.table n.column := by
  rw [Schema.column?, key?, columns, finished]
  simp only [SortedMap.get?_mapValues]
  cases d.tables.get? n.table with
  | none => rfl
  | some columns => rfl

end Draft

/-! ### What is gathered about a listed column -/

open Catalog

section Gathered

variable {tables : List Catalog.Table} {n : QualifiedName} {k : Key}
  (hread : ∀ t ∈ tables, ∀ c ∈ t.columns, t.Readable c)
  (hk : k.Gathers (Key.about (facts tables) n))

include hread hk

theorem Key.Gathers.declared_iff_lists : k.declared = true ↔ ∃ c, Lists tables n c := by
  rw [hk.declared]
  constructor
  · rintro ⟨f, ⟨hf, rfl⟩, hdecl⟩
    obtain ⟨t, ht, c, hc, hdef⟩ := exists_defines_of_declared hf hdecl
    exact ⟨c, hdef.lists ht hc⟩
  · rintro ⟨c, hc⟩
    obtain ⟨t, ht, hct, f, hdef, rfl⟩ := hc.exists_defines hread
    exact ⟨f, ⟨hdef.mem_facts ht hct, rfl⟩, hdef.declared⟩

theorem Key.Gathers.fieldType_of_lists {c : Column} (hc : Lists tables n c) :
    FieldType.ofNative? c.nativeType = some k.fieldType := by
  obtain ⟨t, ht, hct, f, hdef, rfl⟩ := hc.exists_defines hread
  rw [← hk.fieldType f ⟨hdef.mem_facts ht hct, rfl⟩]
  exact hdef.fieldType

theorem Key.Gathers.nullable_iff_lists (hdecl : k.declared = true) :
    k.nullable = true ↔ ∀ c, Lists tables n c → c.nullable = true := by
  rw [hk.nullable, hdecl]
  constructor
  · intro h c hc
    obtain ⟨t, ht, hct, f, hdef, rfl⟩ := hc.exists_defines hread
    rw [← hdef.nullable]
    exact h f ⟨hdef.mem_facts ht hct, rfl⟩ hdef.declared
  · rintro h f ⟨hf, rfl⟩ hfdecl
    obtain ⟨t, ht, c, hc, hdef⟩ := exists_defines_of_declared hf hfdecl
    rw [hdef.nullable]
    exact h c (hdef.lists ht hc)

theorem Key.Gathers.primaryKey_iff_lists (hdecl : k.declared = true) :
    k.primaryKey = true ↔ ∃ c, Lists tables n c ∧ c.primaryKey = true := by
  rw [hk.primaryKey, hdecl]
  constructor
  · rintro ⟨f, ⟨hf, rfl⟩, hfdecl, hpk⟩
    obtain ⟨t, ht, c, hc, hdef⟩ := exists_defines_of_declared hf hfdecl
    exact ⟨c, hdef.lists ht hc, hdef.primaryKey ▸ hpk⟩
  · rintro ⟨c, hc, hpk⟩
    obtain ⟨t, ht, hct, f, hdef, rfl⟩ := hc.exists_defines hread
    exact ⟨f, ⟨hdef.mem_facts ht hct, rfl⟩, hdef.declared, hdef.primaryKey ▸ hpk⟩

theorem Key.Gathers.referencing_iff_links (p : QualifiedName) :
    k.referencing = some p ↔ Links tables n p := by
  rw [hk.referencing]
  constructor
  · rintro ⟨f, ⟨hf, rfl⟩, hp⟩
    exact links_of_mem_facts hf hp
  · intro h
    obtain ⟨t, ht, c, hc, f, hdef, rfl, hp⟩ := h.exists_defines hread
    exact ⟨f, ⟨hdef.mem_facts ht hc, rfl⟩, hp⟩

/-- The columns that point at a column are the sources of its placeholders. -/
theorem Key.Gathers.mem_referencedBy_iff_links (m : QualifiedName) :
    m ∈ k.referencedBy ↔ Links tables m n := by
  rw [hk.referencedBy]
  constructor
  · rintro ⟨f, ⟨hf, rfl⟩, hm⟩
    obtain ⟨t, ht, c, hc, g, hdef, rfl | ⟨p, hp, rfl⟩⟩ := mem_facts_cases hf
    · rw [hdef.referencedBy] at hm
      exact absurd hm (SortedSet.not_mem_empty m)
    · obtain rfl : m = g.name := by simpa [Key.placeholder] using hm
      exact hdef.links ht hc hp
  · intro h
    obtain ⟨t, ht, c, hc, g, hdef, rfl, hp⟩ := h.exists_defines hread
    exact ⟨_, ⟨hdef.placeholder_mem_facts ht hc hp, rfl⟩, by simp [Key.placeholder]⟩

end Gathered

/-! ### What the finished schema says -/

variable {tables : List Catalog.Table} {d : Draft}

theorem Draft.Holds.gathers_about {facts : Set Key} (hd : d.Holds facts) {n : QualifiedName} {k : Key}
    (hk : d.key? n.table n.column = some k) : k.Gathers (Key.about facts n) := by
  have h := (hd.gathers hk).2
  rwa [hd.key?_name hk] at h

/-- The schema of a draft that holds what tables say describes these tables, if everything in it is
declared. -/
theorem Draft.Holds.describes (hread : ∀ t ∈ tables, ∀ c ∈ t.columns, t.Readable c)
    (hd : d.Holds (facts tables))
    (hdecl : ∀ {table column k}, d.key? table column = some k → k.declared = true) :
    d.finished.Describes tables := by
  have hcolumn : ∀ {n k}, d.finished.column? n = some k →
      k.Gathers (Key.about (facts tables) n) ∧ k.declared = true := by
    intro n k hk
    rw [Draft.column?_finished] at hk
    exact ⟨hd.gathers_about hk, hdecl hk⟩
  constructor
  case tableName =>
    intro name t ht
    obtain ⟨columns, -, rfl⟩ := Draft.get?_finished.mp ht
    rfl
  case columnName =>
    intro name t column k ht hk
    obtain ⟨columns, hcolumns, rfl⟩ := Draft.get?_finished.mp ht
    refine hd.name (k := k) ?_
    rw [Draft.key?, Draft.columns, hcolumns]
    exact hk
  case inhabited =>
    intro name t ht
    obtain ⟨columns, hcolumns, rfl⟩ := Draft.get?_finished.mp ht
    exact hd.inhabited hcolumns
  case listed =>
    intro n
    constructor
    · rintro ⟨k, hk⟩
      obtain ⟨hg, hdeclared⟩ := hcolumn hk
      exact (hg.declared_iff_lists hread).mp hdeclared
    · rintro ⟨c, hc⟩
      obtain ⟨t, ht, hct, f, hdef, rfl⟩ := hc.exists_defines hread
      rw [Draft.column?_finished]
      exact hd.complete f (hdef.mem_facts ht hct)
  case declared => exact fun hk => (hcolumn hk).2
  case fieldType => exact fun hk _ hc => (hcolumn hk).1.fieldType_of_lists hread hc
  case nullable => exact fun hk => (hcolumn hk).1.nullable_iff_lists hread (hcolumn hk).2
  case primaryKey => exact fun hk => (hcolumn hk).1.primaryKey_iff_lists hread (hcolumn hk).2
  case referencing => exact fun hk => (hcolumn hk).1.referencing_iff_links hread
  case referencedBy => exact fun hk => (hcolumn hk).1.mem_referencedBy_iff_links hread

/-- Described tables are consistent if a schema describes them in which no table has two primary
keys. -/
theorem Draft.Holds.consistent (hread : ∀ t ∈ tables, ∀ c ∈ t.columns, t.Readable c)
    (hd : d.Holds (facts tables))
    (hdecl : ∀ {table column k}, d.key? table column = some k → k.declared = true)
    (hpk : ∀ {table c c' k k'}, d.key? table c = some k → d.key? table c' = some k' →
      k.primaryKey = true → k'.primaryKey = true → c = c') : Consistent tables := by
  have hfact : ∀ {n c}, Lists tables n c → ∃ k, d.key? n.table n.column = some k ∧
      k.Gathers (Key.about (facts tables) n) := by
    intro n c hc
    obtain ⟨t, ht, hct, f, hdef, rfl⟩ := hc.exists_defines hread
    obtain ⟨k, hk⟩ := hd.complete f (hdef.mem_facts ht hct)
    exact ⟨k, hk, hd.gathers_about hk⟩
  constructor
  case typed => exact fun t ht c hc => (hread t ht c hc).fieldType
  case named => exact fun t ht c hc => QualifiedName.exists_new_iff.mp (hread t ht c hc).name
  case targetsNamed =>
    exact fun t ht c hc fk hfk hon =>
      QualifiedName.exists_new_iff.mp ((hread t ht c hc).target fk ⟨hfk, hon⟩)
  case oneType =>
    intro n c c' hc hc'
    obtain ⟨k, -, hk⟩ := hfact hc
    rw [hk.fieldType_of_lists hread hc, hk.fieldType_of_lists hread hc']
  case targetsListed =>
    intro n p c hlink hc
    obtain ⟨k, -, hk⟩ := hfact hc
    obtain ⟨t, ht, c', hc', f, hdef, rfl, hp⟩ := hlink.exists_defines hread
    have hplaceholder := hdef.placeholder_mem_facts ht hc' hp
    obtain ⟨j, hj⟩ := hd.complete _ hplaceholder
    have hg : j.Gathers (Key.about (facts tables) p) := hd.gathers_about hj
    obtain ⟨c'', hc''⟩ := (hg.declared_iff_lists hread).mp (hdecl hj)
    refine ⟨c'', hc'', ?_⟩
    rw [hg.fieldType_of_lists hread hc'', hk.fieldType_of_lists hread hc,
      ← hg.fieldType _ ⟨hplaceholder, rfl⟩, ← hk.fieldType f ⟨hdef.mem_facts ht hc', rfl⟩]
    rfl
  case oneTarget =>
    intro n p q hp hq
    obtain ⟨t, ht, c, hc, f, hdef, rfl, hfp⟩ := hp.exists_defines hread
    obtain ⟨k, -, hk⟩ := hfact (hdef.lists ht hc)
    exact Option.some.inj (((hk.referencing_iff_links hread p).mpr hp).symm.trans
      ((hk.referencing_iff_links hread q).mpr hq))
  case onePrimaryKey =>
    intro m n c c' hc hc' htable hcpk hcpk'
    obtain ⟨k, hk, hkg⟩ := hfact hc
    obtain ⟨k', hk', hkg'⟩ := hfact hc'
    have hkpk := (hkg.primaryKey_iff_lists hread (hdecl hk)).mpr ⟨c, hc, hcpk⟩
    have hkpk' := (hkg'.primaryKey_iff_lists hread (hdecl hk')).mpr ⟨c', hc', hcpk'⟩
    rw [htable] at hk
    exact QualifiedName.ext_parts htable (hpk hk hk' hkpk hkpk')

theorem Draft.Holds.declared (hconsistent : Consistent tables) (hd : d.Holds (facts tables))
    {table column : String} {k : Key} (hk : d.key? table column = some k) : k.declared = true := by
  obtain ⟨⟨f, hf, hname⟩, hg⟩ := hd.gathers hk
  obtain ⟨c, hc, -⟩ := hconsistent.exists_lists hf
  exact (hg.declared_iff_lists hconsistent.readable).mpr ⟨c, hname ▸ hc⟩

theorem Draft.Holds.onePrimaryKey (hconsistent : Consistent tables) (hd : d.Holds (facts tables))
    {table c c' : String} {k k' : Key} (hk : d.key? table c = some k)
    (hk' : d.key? table c' = some k') (hpk : k.primaryKey = true) (hpk' : k'.primaryKey = true) :
    c = c' := by
  have hlisted : ∀ {column j}, d.key? table column = some j → j.primaryKey = true →
      ∃ b, Lists tables j.name b ∧ b.primaryKey = true := by
    intro column j hj hjpk
    exact ((hd.gathers hj).2.primaryKey_iff_lists hconsistent.readable
      (hd.declared hconsistent hj)).mp hjpk
  obtain ⟨b, hb, hbpk⟩ := hlisted hk hpk
  obtain ⟨b', hb', hbpk'⟩ := hlisted hk' hpk'
  have htable := (hd.name hk).1.trans (hd.name hk').1.symm
  rw [← (hd.name hk).2, ← (hd.name hk').2, hconsistent.onePrimaryKey hb hb' htable hbpk hbpk']

theorem Draft.build_eq_ok_iff_keys {s : Schema} :
    d.build = .ok s ↔
      ((∀ {table column k}, d.key? table column = some k → k.declared = true) ∧
        (∀ {table c c' k k'}, d.key? table c = some k → d.key? table c' = some k' →
          k.primaryKey = true → k'.primaryKey = true → c = c')) ∧
      s = d.finished := by
  rw [Draft.build_eq_ok_iff]
  simp only [Draft.tableError?_eq_none_iff]
  refine and_congr_left fun _ => ?_
  have hkey : ∀ {table columns}, d.tables.get? table = some columns →
      ∀ column, d.key? table column = columns.get? column := by
    intro table columns hcolumns column
    rw [Draft.key?, Draft.columns, hcolumns, Option.getD_some]
  have hcolumns : ∀ {table column k}, d.key? table column = some k →
      ∃ columns, d.tables.get? table = some columns := by
    intro table column k hk
    cases hget : d.tables.get? table with
    | none =>
      rw [Draft.key?, Draft.columns, hget] at hk
      cases hk
    | some columns => exact ⟨columns, rfl⟩
  constructor
  · intro h
    constructor
    · intro table column k hk
      obtain ⟨columns, hget⟩ := hcolumns hk
      exact (h table columns hget).1 column k (hkey hget column ▸ hk)
    · intro table c c' k k' hk hk'
      obtain ⟨columns, hget⟩ := hcolumns hk
      exact (h table columns hget).2 c c' k k' (hkey hget c ▸ hk) (hkey hget c' ▸ hk')
  · rintro ⟨hdecl, hpk⟩ table columns hget
    simp only [← hkey hget]
    exact ⟨fun c k hk => hdecl hk, fun c c' k k' hk hk' => hpk hk hk'⟩

namespace Schema

/-- A schema describes the tables that it was made of, and these are consistent. -/
theorem consistent_and_describes_of_ofTables {s : Schema} (h : Schema.ofTables tables = .ok s) :
    Consistent tables ∧ s.Describes tables := by
  have hmeets := Draft.adds_addTables tables Draft.holds_empty
  rw [Schema.ofTables] at h
  rcases hstep : Draft.stepAll Draft.addTable {} tables with ⟨d, _ | e⟩
  · rw [hstep] at h hmeets
    obtain ⟨hread, hd⟩ := hmeets
    rw [Set.empty_union] at hd
    obtain ⟨⟨hdecl, hpk⟩, rfl⟩ := Draft.build_eq_ok_iff_keys.mp h
    exact ⟨hd.consistent hread hdecl hpk, hd.describes hread hdecl⟩
  · rw [hstep] at h
    cases h

theorem exists_ofTables (h : Consistent tables) : ∃ s, Schema.ofTables tables = .ok s := by
  have hmeets := Draft.adds_addTables tables Draft.holds_empty
  rw [Schema.ofTables]
  rcases hstep : Draft.stepAll Draft.addTable {} tables with ⟨d, _ | e⟩
  · rw [hstep] at hmeets
    have hd := hmeets.2
    rw [Set.empty_union] at hd
    exact ⟨d.finished, Draft.build_eq_ok_iff_keys.mpr
      ⟨⟨hd.declared h, hd.onePrimaryKey h⟩, rfl⟩⟩
  · rw [hstep] at hmeets
    rw [Draft.Meets, Set.empty_union] at hmeets
    exact absurd ⟨h.readable, h.agree⟩ hmeets

/-- The schema of consistent tables knows both sides of every reference. -/
theorem Describes.linked {s : Schema} (hs : s.Describes tables) (h : Consistent tables) : s.Linked where
  target := by
    intro n k p hk hp
    have hlink := (hs.referencing hk p).mp hp
    obtain ⟨c, hc⟩ := (hs.listed n).mp ⟨k, hk⟩
    obtain ⟨c', hc', htype⟩ := h.targetsListed hlink hc
    obtain ⟨k', hk'⟩ := (hs.listed p).mpr ⟨c', hc'⟩
    refine ⟨k', hk', (hs.referencedBy hk' n).mpr hlink, ?_⟩
    rw [hs.fieldType hk' hc', hs.fieldType hk hc] at htype
    exact Option.some.inj htype
  source := by
    intro n k m hk hm
    have hlink := (hs.referencedBy hk m).mp hm
    obtain ⟨t, ht, htable, ⟨c, hc, hcolumn⟩, -⟩ := id hlink
    obtain ⟨k', hk'⟩ := (hs.listed m).mpr ⟨c, t, ht, htable, hc, hcolumn⟩
    exact ⟨k', hk', (hs.referencing hk' n).mpr hlink⟩

theorem column?_eq_some_iff {s : Schema} {n : QualifiedName} {k : Key} :
    s.column? n = some k ↔
      ∃ t, s.tables.get? n.table = some t ∧ t.columns.get? n.column = some k :=
  Option.bind_eq_some_iff

theorem Describes.name_eq {s : Schema} (hs : s.Describes tables) {n : QualifiedName} {k : Key}
    (hk : s.column? n = some k) : k.name = n := by
  obtain ⟨t, ht, hkt⟩ := column?_eq_some_iff.mp hk
  obtain ⟨htable, hcolumn⟩ := hs.columnName ht hkt
  exact QualifiedName.ext_parts htable hcolumn

/-- What is known about a column is determined by what describes it. -/
theorem Describes.column?_of_describes {s s' : Schema} (hs : s.Describes tables)
    (hs' : s'.Describes tables) {n : QualifiedName} {k : Key} (hk : s.column? n = some k) :
    s'.column? n = some k := by
  obtain ⟨c, hc⟩ := (hs.listed n).mp ⟨k, hk⟩
  obtain ⟨k', hk'⟩ := (hs'.listed n).mpr ⟨c, hc⟩
  have hname : k'.name = k.name := (hs'.name_eq hk').trans (hs.name_eq hk).symm
  have htype : k'.fieldType = k.fieldType :=
    Option.some.inj ((hs'.fieldType hk' hc).symm.trans (hs.fieldType hk hc))
  have hnullable : k'.nullable = k.nullable :=
    Bool.eq_iff_iff.mpr ((hs'.nullable hk').trans (hs.nullable hk).symm)
  have hprimaryKey : k'.primaryKey = k.primaryKey :=
    Bool.eq_iff_iff.mpr ((hs'.primaryKey hk').trans (hs.primaryKey hk).symm)
  have hreferencing : k'.referencing = k.referencing :=
    Option.ext fun p => (hs'.referencing hk' p).trans (hs.referencing hk p).symm
  have hreferencedBy : k'.referencedBy = k.referencedBy :=
    SortedSet.ext_mem fun m => (hs'.referencedBy hk' m).trans (hs.referencedBy hk m).symm
  have hdeclared : k'.declared = k.declared := (hs'.declared hk').trans (hs.declared hk).symm
  rw [hk']
  cases k
  cases k'
  simp_all

theorem Describes.get?_columns_iff {s : Schema} (hs : s.Describes tables) {name : String} {t : Table}
    (ht : s.tables.get? name = some t) {column : String} {k : Key} :
    t.columns.get? column = some k ↔
      k.name.table = name ∧ k.name.column = column ∧ s.column? k.name = some k := by
  constructor
  · intro hk
    obtain ⟨htable, hcolumn⟩ := hs.columnName ht hk
    exact ⟨htable, hcolumn, column?_eq_some_iff.mpr ⟨t, htable ▸ ht, hcolumn ▸ hk⟩⟩
  · rintro ⟨rfl, rfl, hk⟩
    obtain ⟨t', ht', hk'⟩ := column?_eq_some_iff.mp hk
    obtain rfl := Option.some.inj (ht'.symm.trans ht)
    exact hk'

theorem Describes.get?_of_describes {s s' : Schema} (hs : s.Describes tables)
    (hs' : s'.Describes tables) {name : String} {t : Table} (ht : s.tables.get? name = some t) :
    s'.tables.get? name = some t := by
  obtain ⟨column, k, hk⟩ := hs.inhabited ht
  obtain ⟨htable, -, hcolumn⟩ := (hs.get?_columns_iff ht).mp hk
  obtain ⟨t', ht', -⟩ := column?_eq_some_iff.mp (hs.column?_of_describes hs' hcolumn)
  rw [htable] at ht'
  have hname : t'.name = t.name := (hs'.tableName ht').trans (hs.tableName ht).symm
  have hcolumns : t'.columns = t.columns := by
    apply SortedMap.ext_get?
    intro c
    apply Option.ext
    intro j
    rw [hs'.get?_columns_iff ht', hs.get?_columns_iff ht]
    exact and_congr_right fun _ => and_congr_right fun _ =>
      ⟨hs'.column?_of_describes hs, hs.column?_of_describes hs'⟩
  rw [ht']
  cases t
  cases t'
  simp_all

/-- Two schemas that describe the same tables are the same. -/
theorem Describes.unique {s s' : Schema} (hs : s.Describes tables) (hs' : s'.Describes tables) :
    s = s' := by
  have htables : s.tables = s'.tables := by
    apply SortedMap.ext_get?
    intro name
    exact Option.ext fun t => ⟨hs.get?_of_describes hs', hs'.get?_of_describes hs⟩
  cases s
  cases s'
  simp_all

/-- Tables have a schema exactly if they are consistent. It is the only schema that describes them,
and in it one column points at another exactly if the other is pointed at by the one. -/
theorem ofTables_accepts_consistent (tables : List Catalog.Table) :
    ((∃ s, Schema.ofTables tables = .ok s) ↔ Consistent tables) ∧
    ∀ s, Schema.ofTables tables = .ok s →
      s.Describes tables ∧ (∀ s' : Schema, s'.Describes tables → s' = s) ∧ s.Linked ∧
      ∀ p q kp kq, s.column? p = some kp → s.column? q = some kq →
        (kq.referencing = some p ↔ q ∈ kp.referencedBy) := by
  refine ⟨⟨fun ⟨s, hs⟩ => (consistent_and_describes_of_ofTables hs).1, exists_ofTables⟩, ?_⟩
  intro s hs
  obtain ⟨hconsistent, hdescribes⟩ := consistent_and_describes_of_ofTables hs
  refine ⟨hdescribes, fun s' hs' => hs'.unique hdescribes, hdescribes.linked hconsistent, ?_⟩
  intro p q kp kq hp hq
  rw [hdescribes.referencing hq, hdescribes.referencedBy hp]

/-- Orders before the customers that they point at, and customers that point at each other and are
listed twice. -/
def shopTables : List Catalog.Table := [
  { namespaceName := "shop", name := "orders"
    columns := [⟨"id", "INTEGER", false, true⟩, ⟨"customer_id", "INTEGER", false, false⟩]
    foreignKeys := [⟨"customer_id", "customers", "id"⟩] },
  { namespaceName := "shop", name := "customers"
    columns := [⟨"id", "INTEGER", false, true⟩, ⟨"referrer_id", "INTEGER", true, false⟩]
    foreignKeys := [⟨"referrer_id", "customers", "id"⟩] },
  { namespaceName := "shop", name := "customers"
    columns := [⟨"id", "INTEGER", false, false⟩, ⟨"email", "VARCHAR(64)", true, false⟩] }]

theorem ofTables_accepts_shopTables : Consistent shopTables ∧
    ∃ s, Schema.ofTables shopTables = .ok s ∧ s.Describes shopTables ∧ s.Linked := by
  have hok : (Schema.ofTables shopTables).isOk = true := by decide +kernel
  cases hs : Schema.ofTables shopTables with
  | error e =>
    rw [hs] at hok
    cases hok
  | ok s =>
    obtain ⟨haccepts, hmeaning⟩ := ofTables_accepts_consistent shopTables
    obtain ⟨hdescribes, -, hlinked, -⟩ := hmeaning s hs
    exact ⟨haccepts.mp ⟨s, hs⟩, s, rfl, hdescribes, hlinked⟩

end Schema

end NestedRows
