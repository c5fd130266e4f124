import NestedRows.TypeGraph.Basic
import NestedRows.Proofs.Schema.WellFormed
/-!
# The fields of the type graph

Every object type is a table of the schema, and every field of it comes from a column: from a column
of the table itself, or from a foreign key elsewhere that points at one.
-/

namespace NestedRows

theorem exists_ok_of_any {ε α : Type} {x : Except ε α} {p : α → Bool}
    (h : x.toOption.any p = true) : ∃ a, x = .ok a ∧ p a = true := by
  cases x with
  | error e => cases h
  | ok a => exact ⟨a, rfl, h⟩

/-- A field that a column gives shows the column, or follows its reference, or follows a reference to
it backwards. -/
theorem Key.kind_of_mem_fields {k : Key} {f : Field} (hf : f ∈ k.fields) :
    f.kind = .scalar k.name.column k.fieldType ∨
      (∃ p, k.referencing = some p ∧ f.kind = .one p.table k.name.column p.column) ∨
      ∃ m ∈ k.referencedBy, f.kind = .many m.table k.name.column m.column := by
  rcases List.mem_append.mp hf with hown | hinverse
  · rw [ownFields] at hown
    cases href : k.referencing with
    | none =>
      rw [href] at hown
      obtain rfl := List.mem_singleton.mp hown
      exact .inl rfl
    | some p =>
      rw [href] at hown
      rcases List.mem_cons.mp hown with rfl | hown
      · exact .inl rfl
      · obtain rfl := List.mem_singleton.mp hown
        exact .inr (.inl ⟨p, rfl, rfl⟩)
  · obtain ⟨m, hm, rfl⟩ := List.mem_map.mp hinverse
    exact .inr (.inr ⟨m, hm, rfl⟩)

namespace TypeGraph

theorem insertField_eq_ok_iff {known : String → Bool} {object : String}
    {fields fields' : SortedMap String Field} {f : Field} :
    insertField known object fields f = .ok fields' ↔
      (∀ target, f.kind.target? = some target → known target = true) ∧
      fields.get? f.name = none ∧ fields' = fields.insert f.name f := by
  have hfilter : (f.kind.target?.filter fun t => !known t) = none ↔
      ∀ target, f.kind.target? = some target → known target = true := by
    cases f.kind.target? <;> simp [Option.filter]
  rw [insertField, ← hfilter]
  cases f.kind.target?.filter fun t => !known t with
  | some target => simp
  | none =>
    by_cases hcontains : fields.contains f.name = true
    · obtain ⟨g, hg⟩ := SortedMap.contains_iff.mp hcontains
      simp [hcontains, hg]
    · have hfree : fields.get? f.name = none := by
        rw [Option.eq_none_iff_forall_ne_some]
        exact fun g hg => hcontains (SortedMap.contains_iff.mpr ⟨g, hg⟩)
      simp [hcontains, hfree, eq_comm]

/-- Fields can be added one after the other if they lead to known tables and no name is taken. -/
theorem insertFields_eq_ok_iff {known : String → Bool} {object : String} {l : List Field}
    {fields fields' : SortedMap String Field} :
    l.foldlM (insertField known object) fields = .ok fields' ↔
      (∀ f ∈ l, ∀ target, f.kind.target? = some target → known target = true) ∧
      (∀ f ∈ l, fields.get? f.name = none) ∧ (l.map Field.name).Nodup ∧
      fields' = l.foldl (fun m f => m.insert f.name f) fields := by
  induction l generalizing fields with
  | nil =>
    simp only [List.foldlM_nil, pure, Except.pure, Except.ok.injEq, List.not_mem_nil,
      false_implies, implies_true, List.map_nil, List.nodup_nil, List.foldl_nil, true_and]
    exact eq_comm
  | cons f rest ih =>
    rw [List.foldlM_cons]
    cases hinsert : insertField known object fields f with
    | error e =>
      simp only [bind, Except.bind, reduceCtorEq, false_iff]
      rintro ⟨hknown, hfree, -, -⟩
      rw [insertField_eq_ok_iff.mpr ⟨hknown f List.mem_cons_self, hfree f List.mem_cons_self, rfl⟩]
        at hinsert
      cases hinsert
    | ok next =>
      obtain ⟨hknown, hfree, rfl⟩ := insertField_eq_ok_iff.mp hinsert
      have hlater : (∀ g ∈ rest, (fields.insert f.name f).get? g.name = none) ↔
          (∀ g ∈ rest, fields.get? g.name = none) ∧ f.name ∉ rest.map Field.name := by
        constructor
        · intro h
          have hne : ∀ g ∈ rest, g.name ≠ f.name := by
            intro g hg heq
            have := h g hg
            rw [heq, SortedMap.get?_insert_self] at this
            cases this
          refine ⟨fun g hg => ?_, fun hmem => ?_⟩
          · rw [← h g hg, SortedMap.get?_insert_of_ne _ _ (hne g hg)]
          · obtain ⟨g, hg, heq⟩ := List.mem_map.mp hmem
            exact hne g hg heq
        · rintro ⟨h, hmem⟩ g hg
          rw [SortedMap.get?_insert_of_ne _ _ fun heq => hmem (List.mem_map.mpr ⟨g, hg, heq⟩)]
          exact h g hg
      simp only [bind, Except.bind, List.forall_mem_cons, List.map_cons, List.nodup_cons,
        List.foldl_cons]
      rw [ih, hlater]
      tauto

def columnFields (t : Schema.Table) : List Field := t.columns.values.flatMap Key.fields

/-- The object type of a table, if it has one. -/
def describe (t : Schema.Table) : ObjectType where
  name := t.name
  primaryKey := t.primaryKey?.map (·.name.column)
  fields := SortedMap.ofList ((columnFields t).map fun f => (f.name, f))

/-- The fields of the table lead to known tables and no two have one name. -/
structure Describable (known : String → Bool) (t : Schema.Table) : Prop where
  known : ∀ f ∈ columnFields t, ∀ target, f.kind.target? = some target → known target = true
  names : ((columnFields t).map Field.name).Nodup

theorem objectType_eq_ok_iff {known : String → Bool} {t : Schema.Table} {o : ObjectType} :
    objectType known t = .ok o ↔ Describable known t ∧ o = describe t := by
  have hfold : (describe t).fields
      = (columnFields t).foldl (fun m f => m.insert f.name f) SortedMap.empty := by
    rw [describe, SortedMap.ofList, List.foldl_map]
  have hfields : ∀ fields, (columnFields t).foldlM (insertField known t.name) SortedMap.empty
      = .ok fields ↔ _ := fun _ => insertFields_eq_ok_iff
  simp only [← hfold] at hfields
  rw [objectType]
  change ((columnFields t).foldlM (insertField known t.name) SortedMap.empty >>= _) = _ ↔ _
  cases hfound : (columnFields t).foldlM (insertField known t.name) SortedMap.empty with
  | error e =>
    simp only [bind, Except.bind, reduceCtorEq, false_iff]
    rintro ⟨hdescribable, -⟩
    have hok := (hfields _).mpr
      ⟨hdescribable.known, fun _ _ => SortedMap.get?_empty _, hdescribable.names, rfl⟩
    rw [hfound] at hok
    cases hok
  | ok fields =>
    obtain ⟨hknown, -, hnames, rfl⟩ := (hfields _).mp hfound
    simp only [bind, Except.bind, pure, Except.pure, Except.ok.injEq]
    exact ⟨fun h => ⟨⟨hknown, hnames⟩, h.symm⟩, fun h => h.2.symm⟩

theorem mapM_eq_ok_iff {α β ε : Type} {f : α → Except ε β} {valid : α → Prop} {g : α → β}
    (h : ∀ a b, f a = .ok b ↔ valid a ∧ b = g a) {l : List α} {bs : List β} :
    l.mapM f = .ok bs ↔ (∀ a ∈ l, valid a) ∧ bs = l.map g := by
  induction l generalizing bs with
  | nil =>
    simp only [List.mapM_nil, pure, Except.pure, Except.ok.injEq, List.not_mem_nil, false_implies,
      implies_true, List.map_nil, true_and]
    exact eq_comm
  | cons a rest ih =>
    rw [List.mapM_cons, List.forall_mem_cons, List.map_cons]
    cases hb : f a with
    | error e =>
      simp only [bind, Except.bind, reduceCtorEq, false_iff]
      rintro ⟨⟨ha, -⟩, -⟩
      rw [(h a (g a)).mpr ⟨ha, rfl⟩] at hb
      cases hb
    | ok b =>
      obtain ⟨ha, rfl⟩ := (h a b).mp hb
      cases hrest : rest.mapM f with
      | error e =>
        simp only [bind, Except.bind, reduceCtorEq, false_iff]
        rintro ⟨⟨-, hvalid⟩, -⟩
        rw [ih.mpr ⟨hvalid, rfl⟩] at hrest
        cases hrest
      | ok more =>
        obtain ⟨hvalid, rfl⟩ := ih.mp hrest
        simp only [bind, Except.bind, pure, Except.pure, Except.ok.injEq]
        exact ⟨fun heq => ⟨⟨ha, hvalid⟩, heq.symm⟩, fun heq => heq.2.symm⟩

/-- A schema has a type graph if every table of it can be described. -/
theorem ofSchema_eq_ok_iff {s : Schema} {g : TypeGraph} :
    ofSchema s = .ok g ↔ (∀ t ∈ s.tables.values, Describable s.tables.contains t) ∧
      g = ⟨SortedMap.ofList (s.tables.values.map fun t => (t.name, describe t)),
        s.tables.values.flatMap edgesFrom⟩ := by
  have hall : ∀ objects, s.tables.values.mapM (objectType s.tables.contains) = .ok objects ↔ _ :=
    fun _ => mapM_eq_ok_iff fun _ _ => objectType_eq_ok_iff
  rw [ofSchema]
  cases hobjects : s.tables.values.mapM (objectType s.tables.contains) with
  | error e =>
    simp only [bind, Except.bind, reduceCtorEq, false_iff]
    rintro ⟨hdescribable, -⟩
    rw [(hall _).mpr ⟨hdescribable, rfl⟩] at hobjects
    cases hobjects
  | ok objects =>
    obtain ⟨hdescribable, rfl⟩ := (hall objects).mp hobjects
    simp only [bind, Except.bind, pure, Except.pure, Except.ok.injEq, List.map_map]
    exact ⟨fun heq => ⟨hdescribable, heq.symm⟩, fun heq => heq.2.symm⟩

/-- An object type is found under its own name. -/
theorem name_of_object? {s : Schema} {g : TypeGraph} (hg : ofSchema s = .ok g) {name : String}
    {o : ObjectType} (ho : g.object? name = some o) : o.name = name := by
  obtain ⟨-, rfl⟩ := ofSchema_eq_ok_iff.mp hg
  obtain ⟨t, -, heq⟩ := List.mem_map.mp (SortedMap.mem_of_get?_ofList ho)
  obtain ⟨rfl, rfl⟩ := Prod.mk.inj heq
  rfl

section Graph

variable {s : Schema} {g : TypeGraph} (hs : s.WellFormed) (hg : ofSchema s = .ok g)

include hs hg

/-- The graph has an object type for each table, and no other. -/
theorem object?_eq_some_iff {name : String} {o : ObjectType} :
    g.object? name = some o ↔ ∃ t, s.tables.get? name = some t ∧ o = describe t := by
  obtain ⟨-, rfl⟩ := ofSchema_eq_ok_iff.mp hg
  have hkeys : (s.tables.values.map fun t => (t.name, describe t)).map (·.1) = s.tables.keys := by
    rw [List.map_map]
    exact SortedMap.map_values_eq_keys fun h => hs.tableName h
  rw [object?, SortedMap.get?_ofList (hkeys ▸ s.tables.nodup_keys), List.mem_map]
  constructor
  · rintro ⟨t, ht, heq⟩
    obtain ⟨rfl, rfl⟩ := Prod.mk.inj heq
    obtain ⟨name, hname⟩ := SortedMap.mem_values.mp ht
    exact ⟨t, hs.tableName hname ▸ hname, rfl⟩
  · rintro ⟨t, ht, rfl⟩
    exact ⟨t, SortedMap.mem_values.mpr ⟨name, ht⟩, by rw [hs.tableName ht]⟩

theorem exists_object? {table column : String} {k : Key} (hk : s.Has table column k) :
    ∃ o, g.object? table = some o := by
  obtain ⟨t, ht, -⟩ := hk
  exact ⟨describe t, (object?_eq_some_iff hs hg).mpr ⟨t, ht, rfl⟩⟩

/-- The fields of a type come from the columns of its table. -/
theorem get?_fields_iff {name : String} {o : ObjectType} (ho : g.object? name = some o) {field : String}
    {f : Field} : o.fields.get? field = some f ↔
      f.name = field ∧ ∃ column k, s.Has name column k ∧ f ∈ k.fields := by
  obtain ⟨t, ht, rfl⟩ := (object?_eq_some_iff hs hg).mp ho
  have hnames := ((ofSchema_eq_ok_iff.mp hg).1 t (SortedMap.mem_values.mpr ⟨name, ht⟩)).names
  have hkeys : (((columnFields t).map fun f => (f.name, f)).map (·.1)).Nodup := by
    rwa [List.map_map]
  rw [describe, SortedMap.get?_ofList hkeys, List.mem_map]
  constructor
  · rintro ⟨f', hf', heq⟩
    obtain ⟨rfl, rfl⟩ := Prod.mk.inj heq
    obtain ⟨k, hk, hfk⟩ := List.mem_flatMap.mp hf'
    obtain ⟨column, hcolumn⟩ := SortedMap.mem_values.mp hk
    exact ⟨rfl, column, k, ⟨t, ht, hcolumn⟩, hfk⟩
  · rintro ⟨rfl, column, k, ⟨t', ht', hk⟩, hfk⟩
    obtain rfl := Option.some.inj (ht.symm.trans ht')
    exact ⟨f, List.mem_flatMap.mpr ⟨k, SortedMap.mem_values.mpr ⟨column, hk⟩, hfk⟩, rfl⟩

theorem has_primaryKey {name pk : String} {o : ObjectType} (ho : g.object? name = some o)
    (hpk : o.primaryKey = some pk) : ∃ k, s.Has name pk k := by
  obtain ⟨t, ht, rfl⟩ := (object?_eq_some_iff hs hg).mp ho
  obtain ⟨k, hk, rfl⟩ := Option.map_eq_some_iff.mp hpk
  obtain ⟨column, hcolumn⟩ := SortedMap.mem_values.mp (List.mem_of_find?_eq_some hk)
  have hhas : s.Has name column k := ⟨t, ht, hcolumn⟩
  rw [(hs.keyName hhas).2]
  exact ⟨k, hhas⟩

variable {name field : String} {o : ObjectType} {f : Field} (ho : g.object? name = some o)
  (hf : o.fields.get? field = some f)

include ho hf

theorem has_of_scalar {column : String} {fieldType : FieldType} (hkind : f.kind = .scalar column fieldType) :
    ∃ k, s.Has name column k ∧ k.fieldType = fieldType := by
  obtain ⟨-, c, k, hk, hfk⟩ := (get?_fields_iff hs hg ho).mp hf
  rcases Key.kind_of_mem_fields hfk with h | ⟨p, -, h⟩ | ⟨m, -, h⟩
  · obtain ⟨rfl, rfl⟩ := FieldKind.scalar.inj (hkind.symm.trans h)
    rw [(hs.keyName hk).2]
    exact ⟨k, hk, rfl⟩
  · cases hkind.symm.trans h
  · cases hkind.symm.trans h

theorem references_of_one {target localKey remoteKey : String}
    (hkind : f.kind = .one target localKey remoteKey) : s.References name localKey target remoteKey := by
  obtain ⟨-, c, k, hk, hfk⟩ := (get?_fields_iff hs hg ho).mp hf
  rcases Key.kind_of_mem_fields hfk with h | ⟨p, hp, h⟩ | ⟨m, -, h⟩
  · cases hkind.symm.trans h
  · obtain ⟨rfl, rfl, rfl⟩ := FieldKind.one.inj (hkind.symm.trans h)
    rw [(hs.keyName hk).2]
    exact ⟨k, p, hk, hp, rfl, rfl⟩
  · cases hkind.symm.trans h

theorem references_of_many {target localKey remoteKey : String}
    (hkind : f.kind = .many target localKey remoteKey) : s.References target remoteKey name localKey := by
  obtain ⟨-, c, k, hk, hfk⟩ := (get?_fields_iff hs hg ho).mp hf
  rcases Key.kind_of_mem_fields hfk with h | ⟨p, -, h⟩ | ⟨m, hm, h⟩
  · cases hkind.symm.trans h
  · cases hkind.symm.trans h
  · obtain ⟨rfl, rfl, rfl⟩ := FieldKind.many.inj (hkind.symm.trans h)
    rw [(hs.keyName hk).2]
    exact hs.references_of_mem_referencedBy hk hm

end Graph

end TypeGraph

end NestedRows
