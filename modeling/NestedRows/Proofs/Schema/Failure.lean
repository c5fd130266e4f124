import NestedRows.Proofs.Schema.Build
/-!
# What a failed step leaves behind

A column is taken out of the draft, merged and put back. A merge that fails comes back in between
(`Draft.mergeKey_eq_error_iff`), so the column is gone, with all that was known of it. A definition with a
reference is merged in two such moves, first into the column that it points at. If the second one fails, the
first one stays. Neither is undone, so no failed step leaves the draft as it was.
-/

namespace NestedRows

namespace Draft

variable {d d' : Draft} {k : Key} {e : SchemaError}

/-- The draft without a column. -/
def drop (d : Draft) (name : QualifiedName) : Draft :=
  ⟨d.tables.insert name.table ((d.columns name.table).erase name.column)⟩

theorem columns_drop_self (d : Draft) (name : QualifiedName) :
    (d.drop name).columns name.table = (d.columns name.table).erase name.column := by
  rw [columns, drop, SortedMap.get?_insert_self, Option.getD_some]

theorem key?_drop_self (d : Draft) (name : QualifiedName) :
    (d.drop name).key? name.table name.column = none := by
  rw [key?, columns_drop_self, SortedMap.get?_erase_self]

theorem key?_drop_of_ne (d : Draft) {name other : QualifiedName} (h : other ≠ name) :
    (d.drop name).key? other.table other.column = d.key? other.table other.column := by
  by_cases htable : other.table = name.table
  · have hcolumn : other.column ≠ name.column := by
      intro hcolumn
      cases other
      cases name
      simp_all
    rw [htable, key?, columns_drop_self, SortedMap.get?_erase_of_ne _ hcolumn, key?]
  · rw [key?, columns, drop, SortedMap.get?_insert_of_ne _ _ htable, key?, columns]

theorem key?_put_of_name_ne (d : Draft) {k : Key} {other : QualifiedName} (h : other ≠ k.name) :
    (d.put k).key? other.table other.column = d.key? other.table other.column := by
  apply key?_put_of_ne
  rintro ⟨htable, hcolumn⟩
  apply h
  cases other
  cases hk : k.name
  simp_all

/-! ### One merge -/

/-- A merge fails exactly if the column is known and contradicts the definition. Then the column is gone. -/
theorem mergeKey_eq_error_iff : d.mergeKey k = (d', some e) ↔
    d' = d.drop k.name ∧
      ∃ existing, d.key? k.name.table k.name.column = some existing ∧ existing.merge k = .error e := by
  cases hj : d.key? k.name.table k.name.column with
  | none =>
    rw [mergeKey_of_none hj]
    simp
  | some existing =>
    cases hm : existing.merge k with
    | ok m =>
      obtain ⟨hc, rfl⟩ := Key.merge_eq_ok_iff.mp hm
      rw [mergeKey_of_ok hj hm hc.name]
      simp [hm]
    | error e' =>
      have hfails : d.mergeKey k = (d.drop k.name, some e') := by
        rw [key?] at hj
        simp only [mergeKey, hj, hm, drop]
      rw [hfails]
      simp [hm, eq_comm]

/-- A merge that succeeds leaves in the column what was said, merged with what was known before. -/
theorem exists_put_of_mergeKey (h : d.mergeKey k = (d', none)) : ∃ m, d' = d.put m ∧ m.name = k.name ∧
    (d.key? k.name.table k.name.column = none ∧ m = k ∨
      ∃ existing, d.key? k.name.table k.name.column = some existing ∧ existing.merge k = .ok m) := by
  cases hj : d.key? k.name.table k.name.column with
  | none =>
    rw [mergeKey_of_none hj] at h
    cases h
    exact ⟨k, rfl, rfl, .inl ⟨rfl, rfl⟩⟩
  | some existing =>
    cases hm : existing.merge k with
    | error e =>
      obtain ⟨d'', hfails⟩ := mergeKey_of_error hj hm
      rw [hfails] at h
      cases h
    | ok m =>
      have hname : m.name = k.name := by
        obtain ⟨hc, rfl⟩ := Key.merge_eq_ok_iff.mp hm
        exact hc.name
      rw [mergeKey_of_ok hj hm hname] at h
      cases h
      exact ⟨m, rfl, hname, .inr ⟨existing, rfl, hm⟩⟩

/-! ### A definition and its target -/

/-- A failed definition failed in the column that it points at, or in its own one behind what its target
was told. -/
theorem addKey_eq_error_cases (h : d.addKey k = (d', some e)) :
    (k.referencing = none ∧ d.mergeKey k = (d', some e)) ∨
    (∃ target, k.referencing = some target ∧
      d.mergeKey (Key.placeholder target k) = (d', some e)) ∨
    ∃ target told, k.referencing = some target ∧
      d.mergeKey (Key.placeholder target k) = (told, none) ∧ told.mergeKey k = (d', some e) := by
  rw [addKey] at h
  cases htarget : k.referencing with
  | none =>
    rw [htarget] at h
    exact .inl ⟨rfl, h⟩
  | some target =>
    rw [htarget] at h
    rcases hstub : d.mergeKey (Key.placeholder target k) with ⟨told, _ | e'⟩
    · rcases hown : told.mergeKey k with ⟨d'', _ | e''⟩
      · simp [stepAll, hstub, hown] at h
      · simp only [stepAll, hstub, hown] at h
        cases h
        exact .inr (.inr ⟨target, told, rfl, hstub ▸ rfl, hown⟩)
    · simp only [stepAll, hstub] at h
      cases h
      exact .inr (.inl ⟨target, rfl, hstub ▸ rfl⟩)

theorem key?_of_mergeKey (h : d.mergeKey k = (d', none)) {other : QualifiedName} (hne : other ≠ k.name) :
    d'.key? other.table other.column = d.key? other.table other.column := by
  obtain ⟨m, rfl, hname, -⟩ := exists_put_of_mergeKey h
  exact key?_put_of_name_ne d (hname ▸ hne)

/-- A column that was told of a reference remembers where it comes from. -/
theorem exists_told {target : QualifiedName} {told : Draft}
    (h : d.mergeKey (Key.placeholder target k) = (told, none)) :
    ∃ m, told.key? target.table target.column = some m ∧ k.name ∈ m.referencedBy ∧
      (d.key? target.table target.column = none → m.declared = false) := by
  obtain ⟨m, rfl, hname, ⟨-, rfl⟩ | ⟨existing, hexisting, hm⟩⟩ := exists_put_of_mergeKey h
  · refine ⟨Key.placeholder target k, key?_put_self d _, ?_, fun _ => rfl⟩
    simp [Key.placeholder]
  · obtain ⟨-, rfl⟩ := Key.merge_eq_ok_iff.mp hm
    refine ⟨existing.joined (Key.placeholder target k), ?_, ?_, ?_⟩
    · change (existing.joined (Key.placeholder target k)).name = target at hname
      rw [← hname]
      exact key?_put_self d _
    · simp [Key.joined, Key.placeholder]
    · intro hnone
      change d.key? target.table target.column = some existing at hexisting
      rw [hnone] at hexisting
      cases hexisting

/-- A definition contradicts nothing in a column of which only its own reference is known, so the column
whose merge failed behind the one of the target was known before. -/
theorem exists_key?_of_told {target : QualifiedName} {told : Draft}
    (hstub : d.mergeKey (Key.placeholder target k) = (told, none))
    (hown : told.mergeKey k = (d', some e)) :
    ∃ existing, d.key? k.name.table k.name.column = some existing := by
  obtain ⟨-, known, hknown, hm⟩ := mergeKey_eq_error_iff.mp hown
  by_cases htarget : k.name = target
  · subst htarget
    obtain ⟨m, rfl, -, ⟨-, rfl⟩ | ⟨existing, hexisting, -⟩⟩ := exists_put_of_mergeKey hstub
    · have hself := key?_put_self d (Key.placeholder k.name k)
      obtain rfl := Option.some.inj (hself.symm.trans hknown)
      exact absurd ⟨rfl, rfl, fun _ _ hp _ => nomatch hp⟩ (Key.merge_eq_error hm)
    · exact ⟨existing, hexisting⟩
  · rw [key?_of_mergeKey hstub htarget] at hknown
    exact ⟨known, hknown⟩

/-! ### Schemas that are built afterwards -/

theorem column?_of_build {s : Schema} (h : d.build = .ok s) (name : QualifiedName) :
    s.column? name = d.key? name.table name.column := by
  obtain ⟨-, rfl⟩ := build_eq_ok_iff.mp h
  exact column?_finished d name

/-- A reference to a column that nobody declares keeps the draft from being finished. -/
theorem build_ne_ok_of_not_declared {name : QualifiedName} {m : Key}
    (hm : d.key? name.table name.column = some m) (hdeclared : m.declared = false) (s : Schema) :
    d.build ≠ .ok s := by
  intro h
  obtain ⟨hall, -⟩ := build_eq_ok_iff.mp h
  rw [key?, columns] at hm
  cases hcolumns : d.tables.get? name.table with
  | none =>
    rw [hcolumns] at hm
    cases hm
  | some columns =>
    rw [hcolumns] at hm
    have := (tableError?_eq_none_iff.mp (hall _ _ hcolumns)).1 _ _ hm
    rw [hdeclared] at this
    cases this

/-! ### The step as a whole -/

/-- What is lost by a definition that is refused, and what else can have changed. -/
structure Loses (k : Key) (d d' : Draft) (lost : QualifiedName) (existing : Key) : Prop where
  named : lost = k.name ∨ k.referencing = some lost
  before : d.key? lost.table lost.column = some existing
  after : d'.key? lost.table lost.column = none
  others : ∀ other, other ≠ lost → k.referencing ≠ some other →
    d'.key? other.table other.column = d.key? other.table other.column
  /-- The target keeps the refused reference. -/
  target : ∀ target, k.referencing = some target → target ≠ lost →
    ∃ told, d'.key? target.table target.column = some told ∧ k.name ∈ told.referencedBy ∧
      (d.key? target.table target.column = none → told.declared = false)

theorem loses_of_target {target : QualifiedName} (htarget : k.referencing = some target)
    (hstub : d.mergeKey (Key.placeholder target k) = (d', some e)) :
    ∃ existing, Loses k d d' target existing := by
  obtain ⟨rfl, existing, hexisting, -⟩ := mergeKey_eq_error_iff.mp hstub
  refine ⟨existing, .inr htarget, hexisting, key?_drop_self d _, ?_, ?_⟩
  · exact fun other hne _ => key?_drop_of_ne d hne
  · intro other hother hne
    exact absurd (Option.some.inj (hother.symm.trans htarget)) hne

theorem loses_behind_target {target : QualifiedName} {told : Draft}
    (htarget : k.referencing = some target)
    (hstub : d.mergeKey (Key.placeholder target k) = (told, none))
    (hown : told.mergeKey k = (d', some e)) : ∃ existing, Loses k d d' k.name existing := by
  obtain ⟨existing, hexisting⟩ := exists_key?_of_told hstub hown
  obtain ⟨rfl, -⟩ := mergeKey_eq_error_iff.mp hown
  refine ⟨existing, .inl rfl, hexisting, key?_drop_self told _, ?_, ?_⟩
  · intro other hne hreferencing
    rw [key?_drop_of_ne told hne]
    exact key?_of_mergeKey hstub fun heq => hreferencing (heq ▸ htarget)
  · intro other hother hne
    obtain rfl := Option.some.inj (htarget.symm.trans hother)
    obtain ⟨m, hm, hrest⟩ := exists_told hstub
    exact ⟨m, (key?_drop_of_ne told hne).trans hm, hrest⟩

theorem exists_loses (h : d.addKey k = (d', some e)) : ∃ lost existing, Loses k d d' lost existing := by
  rcases addKey_eq_error_cases h with ⟨hnone, hown⟩ | ⟨target, htarget, hstub⟩ |
    ⟨target, told, htarget, hstub, hown⟩
  · obtain ⟨rfl, existing, hexisting, -⟩ := mergeKey_eq_error_iff.mp hown
    refine ⟨k.name, existing, .inl rfl, hexisting, key?_drop_self d _, ?_, ?_⟩
    · exact fun other hne _ => key?_drop_of_ne d hne
    · simp [hnone]
  · exact ⟨target, loses_of_target htarget hstub⟩
  · exact ⟨k.name, loses_behind_target htarget hstub hown⟩

/-- **A failed step always changes the draft.** A definition that is refused takes one column with it, its
own one or the one that it points at, and all that was known of that column. Of the rest only the target can
have changed: it keeps the refused reference, and if nobody had spoken of it before then no schema can be
built. A schema that is built afterwards is never the one that was there to be built before: that one had the
lost column. -/
theorem addKey_failed (h : d.addKey k = (d', some e)) :
    ∃ lost existing, Loses k d d' lost existing ∧
      (∀ s, d.build = .ok s → s.column? lost = some existing) ∧
      (∀ s, d'.build = .ok s → s.column? lost = none) ∧
      ∀ target, k.referencing = some target → target ≠ lost →
        d.key? target.table target.column = none → ∀ s, d'.build ≠ .ok s := by
  obtain ⟨lost, existing, hloses⟩ := exists_loses h
  refine ⟨lost, existing, hloses, ?_, ?_, ?_⟩
  · exact fun s hs => (column?_of_build hs lost).trans hloses.before
  · exact fun s hs => (column?_of_build hs lost).trans hloses.after
  · intro target htarget hne hunknown
    obtain ⟨told, htold, -, hdeclared⟩ := hloses.target target htarget hne
    exact build_ne_ok_of_not_declared htold (hdeclared hunknown)

/-- A column whose type is known. -/
def typed : Draft := (addColumn {} ⟨"t", "c", rfl⟩ .int none).1

/-- A column that points at another one, which is known too. -/
def pointing : Draft :=
  (addColumn (addColumn {} ⟨"x", "id", rfl⟩ .int none).1 ⟨"t", "c", rfl⟩ .int (some ⟨"x", "id", rfl⟩)).1

theorem addKey_failed_pointing :
    let k : Key := { name := ⟨"t", "c", rfl⟩, fieldType := .int, referencing := some ⟨"y", "id", rfl⟩ }
    (∃ e, pointing.addKey k = ((pointing.addKey k).1, some e)) ∧
      ∃ lost existing, Loses k pointing (pointing.addKey k).1 lost existing := by
  intro k
  have hfails : ∃ e, pointing.addKey k = ((pointing.addKey k).1, some e) := by
    have hsome : (pointing.addKey k).2.isSome = true := by decide +kernel
    obtain ⟨e, he⟩ := Option.isSome_iff_exists.mp hsome
    exact ⟨e, Prod.ext rfl he⟩
  obtain ⟨e, he⟩ := hfails
  obtain ⟨lost, existing, hloses, -⟩ := addKey_failed he
  exact ⟨⟨e, he⟩, lost, existing, hloses⟩

/-- A column that is refused because of its type takes the accepted one with it: it is no longer in the
schema, and the refused one is accepted when it comes again. A second target for a reference is refused but
not forgotten: the schema that could be built before cannot be built any more. -/
theorem refused_columns_remain :
    (typed.addColumn ⟨"t", "c", rfl⟩ .string none).2 =
        some (.differentTypes ⟨"t", "c", rfl⟩ .int .string) ∧
      typed.build.toOption.map Schema.tableNames = some ["t"] ∧
      ((typed.build.toOption.bind (·.column? ⟨"t", "c", rfl⟩)).map (·.fieldType)) = some .int ∧
      (((typed.addColumn ⟨"t", "c", rfl⟩ .string none).1.build.toOption.bind
        (·.column? ⟨"t", "c", rfl⟩)).map (·.fieldType)) = none ∧
      ((typed.addColumn ⟨"t", "c", rfl⟩ .string none).1.addColumn ⟨"t", "c", rfl⟩ .string none).2 = none ∧
      (pointing.addColumn ⟨"t", "c", rfl⟩ .int (some ⟨"y", "id", rfl⟩)).2 =
        some (.differentReferences ⟨"t", "c", rfl⟩ ⟨"x", "id", rfl⟩ ⟨"y", "id", rfl⟩) ∧
      pointing.build.toOption.isSome = true ∧
      (pointing.addColumn ⟨"t", "c", rfl⟩ .int (some ⟨"y", "id", rfl⟩)).1.build.toOption.isSome = false := by
  decide +kernel

end Draft

end NestedRows
