import NestedRows.Proofs.TypeGraph.Fields
import Mathlib.Data.List.Nodup
/-!
# The type graph is the projection of the schema

What the fields of a table are derived from is read off the schema (`Origin.In`), and so are the fields
themselves (`Schema.Asks`). A schema of described tables has a type graph unless two fields of one table
come to have one name, and then the type graph has exactly the fields that are asked for.
-/

namespace NestedRows

/-- What a field of a table is derived from. -/
inductive Origin where
  /-- A column of the table, with its own name. -/
  | column (name : String)
  /-- A foreign key of the table, as the value that it holds. -/
  | key (name : String)
  /-- A foreign key that points at a column of the table. -/
  | source (name : QualifiedName)
  deriving DecidableEq

namespace Origin

def fieldName : Origin → String
  | column c => c
  | key c => c ++ "_key"
  | source m => m.table ++ "_on_" ++ m.column

/-- The origins of the fields of a table. -/
inductive In (s : Schema) (table : String) : Origin → Prop
  | column {c : String} {k : Key} (hk : s.Has table c k) : In s table (column c)
  | key {c : String} {k : Key} {p : QualifiedName} (hk : s.Has table c k)
      (hp : k.referencing = some p) : In s table (key c)
  | source {m p : QualifiedName} {k : Key} (hk : s.Has m.table m.column k)
      (hp : k.referencing = some p) (htable : p.table = table) : In s table (source m)

end Origin

namespace Key

def origins (k : Key) : List Origin :=
  (match k.referencing with
    | none => [.column k.name.column]
    | some _ => [.key k.name.column, .column k.name.column]) ++ k.referencedBy.toList.map .source

theorem map_name_fields (k : Key) : k.fields.map Field.name = k.origins.map Origin.fieldName := by
  rw [fields, origins, List.map_append, List.map_append, List.map_map, List.map_map]
  congr 1
  rw [ownFields]
  cases k.referencing <;> rfl

theorem mem_origins {k : Key} {o : Origin} : o ∈ k.origins ↔
    o = .column k.name.column ∨ (∃ p, k.referencing = some p ∧ o = .key k.name.column) ∨
      ∃ m ∈ k.referencedBy, o = .source m := by
  have hsources : o ∈ k.referencedBy.toList.map Origin.source ↔
      ∃ m ∈ k.referencedBy, o = .source m := by
    rw [List.mem_map]
    exact exists_congr fun m => and_congr_right fun _ => eq_comm
  rw [origins, List.mem_append, hsources, ← or_assoc]
  apply or_congr_left
  cases k.referencing <;> simp [or_comm]

theorem nodup_origins (k : Key) : k.origins.Nodup := by
  rw [origins, List.nodup_append]
  refine ⟨?_, ?_, ?_⟩
  · cases k.referencing <;> simp
  · rw [List.Nodup, List.pairwise_map]
    exact k.referencedBy.sorted.imp fun hlt heq => by simp [Origin.source.inj heq] at hlt
  · rintro a ha b hb rfl
    obtain ⟨m, -, rfl⟩ := List.mem_map.mp hb
    cases hr : k.referencing <;> simp [hr] at ha

end Key

/-! ### The origins of a table -/

namespace Schema

variable {s : Schema} (hs : s.WellFormed)

include hs

/-- An origin belongs to one column of a table. -/
theorem WellFormed.column_eq_of_mem_origins {table c c' : String} {k k' : Key} (hk : s.Has table c k)
    (hk' : s.Has table c' k') {o : Origin} (ho : o ∈ k.origins) (ho' : o ∈ k'.origins) : c = c' := by
  have hname := (hs.keyName hk).2
  have hname' := (hs.keyName hk').2
  rcases Key.mem_origins.mp ho with rfl | ⟨p, -, rfl⟩ | ⟨m, hm, rfl⟩
  · rcases Key.mem_origins.mp ho' with heq | ⟨_, -, heq⟩ | ⟨_, -, heq⟩
    · rw [← hname, ← hname', Origin.column.inj heq]
    · cases heq
    · cases heq
  · rcases Key.mem_origins.mp ho' with heq | ⟨_, -, heq⟩ | ⟨_, -, heq⟩
    · cases heq
    · rw [← hname, ← hname', Origin.key.inj heq]
    · cases heq
  · rcases Key.mem_origins.mp ho' with heq | ⟨_, -, heq⟩ | ⟨m', hm', heq⟩
    · cases heq
    · cases heq
    · -- a column points at one column only
      obtain rfl := Origin.source.inj heq
      obtain ⟨j, hj, hp⟩ := hs.exists_source hk hm
      obtain ⟨j', hj', hp'⟩ := hs.exists_source hk' hm'
      obtain rfl := hj.unique hj'
      rw [← hname, ← hname', Option.some.inj (hp.symm.trans hp')]

theorem WellFormed.in_of_mem_origins {table c : String} {k : Key} (hk : s.Has table c k) {o : Origin}
    (ho : o ∈ k.origins) : o.In s table := by
  rcases Key.mem_origins.mp ho with rfl | ⟨p, hp, rfl⟩ | ⟨m, hm, rfl⟩
  · rw [(hs.keyName hk).2]
    exact .column hk
  · rw [(hs.keyName hk).2]
    exact .key hk hp
  · obtain ⟨j, hj, hp⟩ := hs.exists_source hk hm
    exact .source hj hp (hs.keyName hk).1

theorem WellFormed.mem_origins_of_in {table : String} {o : Origin} (ho : o.In s table) :
    ∃ c k, s.Has table c k ∧ o ∈ k.origins := by
  cases ho with
  | @column c k hk =>
    refine ⟨c, k, hk, Key.mem_origins.mpr (.inl ?_)⟩
    rw [(hs.keyName hk).2]
  | @key c k p hk hp =>
    refine ⟨c, k, hk, Key.mem_origins.mpr (.inr (.inl ⟨p, hp, ?_⟩))⟩
    rw [(hs.keyName hk).2]
  | @source m p k hk hp htable =>
    subst htable
    obtain ⟨k', hk', hmem, -⟩ := hs.exists_target hk hp
    rw [QualifiedName.ext_parts (hs.keyName hk).1 (hs.keyName hk).2] at hmem
    exact ⟨p.column, k', hk', Key.mem_origins.mpr (.inr (.inr ⟨m, hmem, rfl⟩))⟩

end Schema

namespace TypeGraph

def originsOf (t : Schema.Table) : List Origin := t.columns.values.flatMap Key.origins

theorem map_name_columnFields (t : Schema.Table) :
    (columnFields t).map Field.name = (originsOf t).map Origin.fieldName := by
  rw [columnFields, originsOf, List.map_flatMap, List.map_flatMap]
  simp only [Key.map_name_fields]

section Origins

variable {s : Schema} {name : String} {t : Schema.Table} (hs : s.WellFormed)
  (ht : s.tables.get? name = some t)

include hs ht

theorem mem_originsOf_iff {o : Origin} : o ∈ originsOf t ↔ o.In s name := by
  rw [originsOf, List.mem_flatMap]
  constructor
  · rintro ⟨k, hk, ho⟩
    obtain ⟨c, hc⟩ := SortedMap.mem_values.mp hk
    exact hs.in_of_mem_origins ⟨t, ht, hc⟩ ho
  · intro ho
    obtain ⟨c, k, ⟨t', ht', hk⟩, hmem⟩ := hs.mem_origins_of_in ho
    obtain rfl := Option.some.inj (ht.symm.trans ht')
    exact ⟨k, SortedMap.mem_values.mpr ⟨c, hk⟩, hmem⟩

theorem nodup_originsOf : (originsOf t).Nodup := by
  rw [originsOf, List.nodup_flatMap]
  refine ⟨fun k _ => k.nodup_origins, ?_⟩
  rw [SortedMap.values, List.pairwise_map]
  refine t.columns.sorted.imp_of_mem fun {a b} ha hb hlt o hoa hob => ?_
  have hhas : ∀ {e : String × Key}, e ∈ t.columns.toList → s.Has name e.1 e.2 :=
    fun he => ⟨t, ht, SortedMap.get?_eq_some_iff.mpr he⟩
  have heq := hs.column_eq_of_mem_origins (hhas ha) (hhas hb) hoa hob
  rw [heq] at hlt
  simp at hlt

end Origins

/-! ### What goes wrong in making a type graph -/

theorem insertField_eq_error {known : String → Bool} {object : String}
    {fields : SortedMap String Field} {f : Field} {e : TypeGraphError}
    (hknown : ∀ target, f.kind.target? = some target → known target = true)
    (h : insertField known object fields f = .error e) :
    (∃ g, fields.get? f.name = some g) ∧ e = .duplicateField object f.name := by
  have hfilter : (f.kind.target?.filter fun t => !known t) = none := by
    cases htarget : f.kind.target? with
    | none => rfl
    | some target => simp [Option.filter, hknown target htarget]
  rw [insertField, hfilter] at h
  dsimp only at h
  split at h
  case isTrue hcontains => exact ⟨SortedMap.contains_iff.mp hcontains, (Except.error.inj h).symm⟩
  case isFalse => cases h

/-- Fields that lead to known tables cannot all be added if one has the name of one before it. -/
theorem insertFields_eq_error {known : String → Bool} {object : String} {l : List Field}
    {fields : SortedMap String Field} {e : TypeGraphError}
    (hknown : ∀ f ∈ l, ∀ target, f.kind.target? = some target → known target = true)
    (h : l.foldlM (insertField known object) fields = .error e) :
    ∃ before f after, l = before ++ f :: after ∧ e = .duplicateField object f.name ∧
      (f.name ∈ before.map Field.name ∨ ∃ g, fields.get? f.name = some g) := by
  induction l generalizing fields with
  | nil => cases h
  | cons f rest ih =>
    rw [List.foldlM_cons] at h
    cases hinsert : insertField known object fields f with
    | error e' =>
      rw [hinsert] at h
      obtain rfl : e' = e := Except.error.inj h
      obtain ⟨htaken, he⟩ := insertField_eq_error (hknown f List.mem_cons_self) hinsert
      exact ⟨[], f, rest, rfl, he, .inr htaken⟩
    | ok next =>
      rw [hinsert] at h
      obtain ⟨-, -, rfl⟩ := insertField_eq_ok_iff.mp hinsert
      obtain ⟨before, g, after, rfl, he, htaken⟩ :=
        ih (fun g hg => hknown g (List.mem_cons_of_mem _ hg)) h
      refine ⟨f :: before, g, after, rfl, he, ?_⟩
      by_cases hname : g.name = f.name
      · exact .inl (hname ▸ List.mem_cons_self)
      · rw [SortedMap.get?_insert_of_ne _ _ hname] at htaken
        exact htaken.imp_left (List.mem_cons_of_mem _)

theorem exists_of_mapM_eq_error {α β ε : Type} {f : α → Except ε β} {l : List α} {e : ε}
    (h : l.mapM f = .error e) : ∃ a ∈ l, f a = .error e := by
  induction l with
  | nil => cases h
  | cons a rest ih =>
    rw [List.mapM_cons] at h
    cases ha : f a with
    | error e' =>
      rw [ha] at h
      obtain rfl : e' = e := Except.error.inj h
      exact ⟨a, List.mem_cons_self, ha⟩
    | ok b =>
      rw [ha] at h
      cases hrest : rest.mapM f with
      | error e' =>
        rw [hrest] at h
        obtain rfl : e' = e := Except.error.inj h
        obtain ⟨a', ha', he⟩ := ih hrest
        exact ⟨a', List.mem_cons_of_mem _ ha', he⟩
      | ok bs =>
        rw [hrest] at h
        cases h

section Errors

variable {s : Schema} (hs : s.WellFormed)

include hs

theorem known_of_mem_columnFields {name : String} {t : Schema.Table}
    (ht : s.tables.get? name = some t) {f : Field} (hf : f ∈ columnFields t) {target : String}
    (htarget : f.kind.target? = some target) : s.tables.contains target = true := by
  obtain ⟨k, hk, hfk⟩ := List.mem_flatMap.mp hf
  obtain ⟨c, hc⟩ := SortedMap.mem_values.mp hk
  have hhas : s.Has name c k := ⟨t, ht, hc⟩
  rw [SortedMap.contains_iff]
  rcases Key.kind_of_mem_fields hfk with hkind | ⟨p, hp, hkind⟩ | ⟨m, hm, hkind⟩
  · rw [hkind] at htarget
    cases htarget
  · rw [hkind] at htarget
    obtain rfl := Option.some.inj htarget
    obtain ⟨_, ⟨t', ht', -⟩, -⟩ := hs.exists_target hhas hp
    exact ⟨t', ht'⟩
  · rw [hkind] at htarget
    obtain rfl := Option.some.inj htarget
    obtain ⟨_, ⟨t', ht', -⟩, -⟩ := hs.exists_source hhas hm
    exact ⟨t', ht'⟩

end Errors

end TypeGraph

/-- Two fields of a table, of different origins, come to have one name. -/
structure Schema.Collision (s : Schema) (table : String) (a b : Origin) : Prop where
  left : a.In s table
  right : b.In s table
  ne : a ≠ b
  fieldName : a.fieldName = b.fieldName

/-- The fields that a schema asks for on a table. -/
inductive Schema.Asks (s : Schema) (table : String) : Field → Prop
  | column {c : String} {k : Key} (hk : s.Has table c k) (hplain : k.referencing = none) :
      Asks s table ⟨c, .scalar c k.fieldType, k.nullable⟩
  | key {c : String} {k : Key} {p : QualifiedName} (hk : s.Has table c k)
      (hp : k.referencing = some p) :
      Asks s table ⟨c ++ "_key", .scalar c k.fieldType, k.nullable⟩
  | one {c : String} {k : Key} {p : QualifiedName} (hk : s.Has table c k)
      (hp : k.referencing = some p) : Asks s table ⟨c, .one p.table c p.column, true⟩
  | many {source c : String} {k : Key} {p : QualifiedName} (hk : s.Has source c k)
      (hp : k.referencing = some p) (htable : p.table = table) :
      Asks s table ⟨source ++ "_on_" ++ c, .many source p.column c, false⟩

namespace TypeGraph

section Errors

variable {s : Schema} (hs : s.WellFormed)

include hs

/-- What goes wrong goes wrong with the fields of one table. -/
theorem exists_insertFields_error {e : TypeGraphError} (h : ofSchema s = .error e) :
    ∃ t, s.tables.get? t.name = some t ∧
      (columnFields t).foldlM (insertField s.tables.contains t.name) SortedMap.empty = .error e := by
  rw [ofSchema] at h
  cases hobjects : s.tables.values.mapM (objectType s.tables.contains) with
  | ok objects =>
    rw [hobjects] at h
    cases h
  | error e' =>
    rw [hobjects] at h
    obtain rfl : e' = e := Except.error.inj h
    obtain ⟨t, ht, herror⟩ := exists_of_mapM_eq_error hobjects
    obtain ⟨name, hname⟩ := SortedMap.mem_values.mp ht
    obtain rfl := hs.tableName hname
    refine ⟨t, hname, ?_⟩
    rw [objectType] at herror
    change ((columnFields t).foldlM _ SortedMap.empty >>= _) = _ at herror
    cases hfields : (columnFields t).foldlM (insertField s.tables.contains t.name)
        SortedMap.empty with
    | ok fields =>
      rw [hfields] at herror
      cases herror
    | error e'' =>
      rw [hfields] at herror
      exact congrArg Except.error (Except.error.inj herror)

omit hs in
/-- A name that comes up again among the fields comes up again among their origins. -/
theorem exists_split_originsOf {t : Schema.Table} {before after : List Field} {f : Field}
    (hsplit : columnFields t = before ++ f :: after) (htaken : f.name ∈ before.map Field.name) :
    ∃ first a rest, originsOf t = first ++ a :: rest ∧ a.fieldName = f.name ∧
      ∃ b ∈ first, b.fieldName = f.name := by
  have hnames := map_name_columnFields t
  rw [hsplit, List.map_append, List.map_cons, eq_comm, List.map_eq_append_iff] at hnames
  obtain ⟨first, others, horigins, hbefore, hothers⟩ := hnames
  obtain ⟨a, rest, rfl, ha, -⟩ := List.map_eq_cons_iff.mp hothers
  rw [← hbefore] at htaken
  exact ⟨first, a, rest, horigins, ha, List.mem_map.mp htaken⟩

theorem exists_collision_of_error {e : TypeGraphError} (h : ofSchema s = .error e) :
    ∃ table a b, s.Collision table a b ∧ e = .duplicateField table a.fieldName := by
  obtain ⟨t, ht, herror⟩ := exists_insertFields_error hs h
  obtain ⟨before, f, after, hsplit, rfl, htaken⟩ := insertFields_eq_error
    (fun f hf _ => known_of_mem_columnFields hs ht hf) herror
  have htaken : f.name ∈ before.map Field.name := by
    rcases htaken with htaken | ⟨g, hg⟩
    · exact htaken
    · cases hg
  obtain ⟨first, a, rest, horigins, ha, b, hb, hba⟩ := exists_split_originsOf hsplit htaken
  have hin : ∀ o ∈ first ++ a :: rest, o.In s t.name :=
    fun o ho => (mem_originsOf_iff hs ht).mp (horigins ▸ ho)
  have hnodup := nodup_originsOf hs ht
  rw [horigins] at hnodup
  refine ⟨t.name, a, b, ⟨?_, ?_, ?_, ?_⟩, by rw [ha]⟩
  · exact hin a (List.mem_append_right _ List.mem_cons_self)
  · exact hin b (List.mem_append_left _ hb)
  · rintro rfl
    exact (List.nodup_append.mp hnodup).2.2 _ hb _ List.mem_cons_self rfl
  · rw [ha, hba]

theorem not_collision_of_ok {g : TypeGraph} (hg : ofSchema s = .ok g) {table : String}
    {a b : Origin} : ¬ s.Collision table a b := by
  intro h
  have htable : ∃ t, s.tables.get? table = some t := by
    obtain ⟨c, k, ⟨t, ht, -⟩, -⟩ := hs.mem_origins_of_in h.left
    exact ⟨t, ht⟩
  obtain ⟨t, ht⟩ := htable
  have hnames := ((ofSchema_eq_ok_iff.mp hg).1 t (SortedMap.mem_values.mpr ⟨table, ht⟩)).names
  rw [map_name_columnFields] at hnames
  apply h.ne
  exact List.inj_on_of_nodup_map hnames ((mem_originsOf_iff hs ht).mpr h.left)
    ((mem_originsOf_iff hs ht).mpr h.right) h.fieldName

end Errors

end TypeGraph

/-! ### The fields that are there -/

def ObjectType.HasField (o : ObjectType) (f : Field) : Prop := o.fields.get? f.name = some f

theorem Schema.WellFormed.asks_iff {s : Schema} (hs : s.WellFormed) {table : String} {f : Field} :
    s.Asks table f ↔ ∃ c k, s.Has table c k ∧ f ∈ k.fields := by
  constructor
  · intro h
    cases h with
    | @column c k hk hplain =>
      refine ⟨c, k, hk, List.mem_append_left _ ?_⟩
      rw [Key.ownFields, hplain, (hs.keyName hk).2]
      exact List.mem_singleton_self _
    | @key c k p hk hp =>
      refine ⟨c, k, hk, List.mem_append_left _ ?_⟩
      rw [Key.ownFields, hp, (hs.keyName hk).2]
      exact List.mem_cons_self
    | @one c k p hk hp =>
      refine ⟨c, k, hk, List.mem_append_left _ ?_⟩
      rw [Key.ownFields, hp, (hs.keyName hk).2]
      exact List.mem_cons_of_mem _ (List.mem_singleton_self _)
    | @many source c k p hk hp htable =>
      subst htable
      obtain ⟨j, hj, hmem, -⟩ := hs.exists_target hk hp
      refine ⟨p.column, j, hj, List.mem_append_right _ (List.mem_map.mpr ⟨k.name, hmem, ?_⟩)⟩
      obtain ⟨htable, hcolumn⟩ := hs.keyName hk
      rw [Key.inverseField, Key.inverseFieldName, htable, hcolumn, (hs.keyName hj).2]
  · rintro ⟨c, k, hk, hf⟩
    have hcolumn := (hs.keyName hk).2
    rcases List.mem_append.mp hf with hown | hinverse
    · rw [Key.ownFields, hcolumn] at hown
      cases hr : k.referencing with
      | none =>
        rw [hr] at hown
        obtain rfl := List.mem_singleton.mp hown
        exact .column hk hr
      | some p =>
        rw [hr] at hown
        rcases List.mem_cons.mp hown with rfl | hown
        · exact .key hk hr
        · obtain rfl := List.mem_singleton.mp hown
          exact .one hk hr
    · obtain ⟨m, hm, rfl⟩ := List.mem_map.mp hinverse
      obtain ⟨j, hj, hp⟩ := hs.exists_source hk hm
      rw [Key.inverseField, Key.inverseFieldName, hcolumn, ← hcolumn]
      exact .many hj hp (hs.keyName hk).1

/-- The one field that shows a column. -/
def Key.shown (k : Key) : Field where
  name := if k.referencing.isSome then k.name.column ++ "_key" else k.name.column
  kind := .scalar k.name.column k.fieldType
  nullable := k.nullable

namespace Schema.Asks

variable {s : Schema} {table : String} {f : Field} (h : s.Asks table f)

include h

theorem of_scalar (hs : s.WellFormed) {column : String} {fieldType : FieldType}
    (hkind : f.kind = .scalar column fieldType) : ∃ k, s.Has table column k ∧ f = k.shown := by
  cases h with
  | @column c k hk hplain =>
    obtain ⟨rfl, rfl⟩ := FieldKind.scalar.inj hkind
    exact ⟨k, hk, by simp [Key.shown, hplain, (hs.keyName hk).2]⟩
  | @key c k p hk hp =>
    obtain ⟨rfl, rfl⟩ := FieldKind.scalar.inj hkind
    exact ⟨k, hk, by simp [Key.shown, hp, (hs.keyName hk).2]⟩
  | one => cases hkind
  | many => cases hkind

theorem of_one {target localKey remoteKey : String} (hkind : f.kind = .one target localKey remoteKey) :
    s.References table localKey target remoteKey ∧
      f = ⟨localKey, .one target localKey remoteKey, true⟩ := by
  cases h with
  | column => cases hkind
  | key => cases hkind
  | @one c k p hk hp =>
    obtain ⟨rfl, rfl, rfl⟩ := FieldKind.one.inj hkind
    exact ⟨⟨k, p, hk, hp, rfl, rfl⟩, rfl⟩
  | many => cases hkind

theorem of_many {target localKey remoteKey : String}
    (hkind : f.kind = .many target localKey remoteKey) :
    s.References target remoteKey table localKey ∧
      f = ⟨target ++ "_on_" ++ remoteKey, .many target localKey remoteKey, false⟩ := by
  cases h with
  | column => cases hkind
  | key => cases hkind
  | one => cases hkind
  | @many source c k p hk hp htable =>
    obtain ⟨rfl, rfl, rfl⟩ := FieldKind.many.inj hkind
    exact ⟨⟨k, p, hk, hp, htable, rfl⟩, rfl⟩

end Schema.Asks

theorem Schema.WellFormed.asks_shown {s : Schema} (hs : s.WellFormed) {table column : String} {k : Key}
    (hk : s.Has table column k) : s.Asks table k.shown := by
  rw [Key.shown, (hs.keyName hk).2]
  cases hp : k.referencing with
  | none => exact .column hk hp
  | some p => exact .key hk hp

theorem Schema.References.unique {s : Schema} {table column target target' remote remote' : String}
    (h : s.References table column target remote) (h' : s.References table column target' remote') :
    target = target' ∧ remote = remote' := by
  obtain ⟨k, p, hk, hp, rfl, rfl⟩ := h
  obtain ⟨k', p', hk', hp', rfl, rfl⟩ := h'
  obtain rfl := hk.unique hk'
  rw [Option.some.inj (hp.symm.trans hp')]
  exact ⟨rfl, rfl⟩

/-- The type graph says of the tables what the schema does, and no more. -/
structure TypeGraph.Projects (g : TypeGraph) (s : Schema) : Prop where
  types : ∀ name, (∃ o, g.object? name = some o) ↔ ∃ t, s.tables.get? name = some t
  object : ∀ {name o}, g.object? name = some o →
    o.name = name ∧ o.primaryKey = (s.primaryKey? name).map (·.name.column)
  /-- The fields are those asked for, each under its own name. -/
  fields : ∀ {name o}, g.object? name = some o → ∀ field f,
    o.fields.get? field = some f ↔ f.name = field ∧ s.Asks name f
  /-- A column is shown by one field, with its type and whether it may be null. -/
  scalar : ∀ {table column k}, s.Has table column k → ∃ o f, g.object? table = some o ∧
    o.HasField f ∧ f.kind = .scalar column k.fieldType ∧ f.nullable = k.nullable ∧
    ∀ f', o.HasField f' → (∃ fieldType, f'.kind = .scalar column fieldType) → f' = f
  /-- A foreign key is followed by one field of its table, which may be null. -/
  one : ∀ {table column target remote}, s.References table column target remote →
    ∃ o, g.object? table = some o ∧ o.HasField ⟨column, .one target column remote, true⟩ ∧
      ∀ f, o.HasField f → (∃ target' remote', f.kind = .one target' column remote') →
        f = ⟨column, .one target column remote, true⟩
  /-- It is followed backwards by one field of the table that it points at, which is a list. -/
  many : ∀ {table column target remote}, s.References table column target remote →
    ∃ o, g.object? target = some o ∧
      o.HasField ⟨table ++ "_on_" ++ column, .many table remote column, false⟩ ∧
      ∀ f, o.HasField f → (∃ remote', f.kind = .many table remote' column) →
        f = ⟨table ++ "_on_" ++ column, .many table remote column, false⟩
  /-- No field follows anything but a foreign key. -/
  references : ∀ {name o f}, g.object? name = some o → o.HasField f →
    (∀ target localKey remoteKey, f.kind = .one target localKey remoteKey →
      s.References name localKey target remoteKey) ∧
    ∀ target localKey remoteKey, f.kind = .many target localKey remoteKey →
      s.References target remoteKey name localKey
  /-- Each field that leads to one row has one counterpart that leads back, and the other way round. -/
  inverse : ∀ {a b o o'}, g.object? a = some o → g.object? b = some o' → ∀ localKey remoteKey,
    (∃! f, o.HasField f ∧ f.kind = .one b localKey remoteKey) ↔
      ∃! f, o'.HasField f ∧ f.kind = .many a remoteKey localKey

namespace TypeGraph

section Projects

variable {s : Schema} {g : TypeGraph} (hs : s.WellFormed) (hg : ofSchema s = .ok g)

include hs hg

theorem get?_fields_iff_asks {name : String} {o : ObjectType} (ho : g.object? name = some o)
    {field : String} {f : Field} :
    o.fields.get? field = some f ↔ f.name = field ∧ s.Asks name f := by
  rw [get?_fields_iff hs hg ho, hs.asks_iff]

theorem hasField_iff {name : String} {o : ObjectType} (ho : g.object? name = some o) {f : Field} :
    o.HasField f ↔ s.Asks name f := by
  rw [ObjectType.HasField, get?_fields_iff_asks hs hg ho, eq_self, true_and]

theorem existsUnique_one_iff {a b : String} {o : ObjectType} (ho : g.object? a = some o)
    {localKey remoteKey : String} :
    (∃! f, o.HasField f ∧ f.kind = .one b localKey remoteKey) ↔
      s.References a localKey b remoteKey := by
  constructor
  · rintro ⟨f, ⟨hf, hkind⟩, -⟩
    exact (((hasField_iff hs hg ho).mp hf).of_one hkind).1
  · rintro ⟨k, p, hk, hp, rfl, rfl⟩
    refine ⟨_, ⟨(hasField_iff hs hg ho).mpr (.one hk hp), rfl⟩, ?_⟩
    rintro f ⟨hf, hkind⟩
    exact (((hasField_iff hs hg ho).mp hf).of_one hkind).2

theorem existsUnique_many_iff {a b : String} {o : ObjectType} (ho : g.object? b = some o)
    {localKey remoteKey : String} :
    (∃! f, o.HasField f ∧ f.kind = .many a remoteKey localKey) ↔
      s.References a localKey b remoteKey := by
  constructor
  · rintro ⟨f, ⟨hf, hkind⟩, -⟩
    exact (((hasField_iff hs hg ho).mp hf).of_many hkind).1
  · rintro ⟨k, p, hk, hp, htable, rfl⟩
    refine ⟨_, ⟨(hasField_iff hs hg ho).mpr (.many hk hp htable), rfl⟩, ?_⟩
    rintro f ⟨hf, hkind⟩
    exact (((hasField_iff hs hg ho).mp hf).of_many hkind).2

theorem projects : g.Projects s := by
  constructor
  case types =>
    intro name
    simp only [object?_eq_some_iff hs hg]
    exact ⟨fun ⟨_, t, ht, _⟩ => ⟨t, ht⟩, fun ⟨t, ht⟩ => ⟨describe t, t, ht, rfl⟩⟩
  case object =>
    intro name o ho
    obtain ⟨t, ht, rfl⟩ := (object?_eq_some_iff hs hg).mp ho
    refine ⟨hs.tableName ht, ?_⟩
    rw [Schema.primaryKey?, ht]
    rfl
  case fields =>
    intro name o ho field f
    exact get?_fields_iff_asks hs hg ho
  case scalar =>
    intro table column k hk
    obtain ⟨o, ho⟩ := exists_object? hs hg hk
    have hshown := (hasField_iff hs hg ho).mpr (hs.asks_shown hk)
    refine ⟨o, k.shown, ho, hshown, ?_, rfl, ?_⟩
    · rw [Key.shown, (hs.keyName hk).2]
    · rintro f hf ⟨fieldType, hkind⟩
      obtain ⟨k', hk', rfl⟩ := ((hasField_iff hs hg ho).mp hf).of_scalar hs hkind
      rw [hk'.unique hk]
  case one =>
    intro table column target remote href
    obtain ⟨k, p, hk, hp, rfl, rfl⟩ := id href
    obtain ⟨o, ho⟩ := exists_object? hs hg hk
    refine ⟨o, ho, (hasField_iff hs hg ho).mpr (.one hk hp), ?_⟩
    rintro f hf ⟨target', remote', hkind⟩
    obtain ⟨href', rfl⟩ := ((hasField_iff hs hg ho).mp hf).of_one hkind
    obtain ⟨rfl, rfl⟩ := href'.unique href
    rfl
  case many =>
    intro table column target remote href
    obtain ⟨k, p, hk, hp, rfl, rfl⟩ := id href
    obtain ⟨k', hk', -⟩ := hs.exists_target hk hp
    obtain ⟨o, ho⟩ := exists_object? hs hg hk'
    refine ⟨o, ho, (hasField_iff hs hg ho).mpr (.many hk hp rfl), ?_⟩
    rintro f hf ⟨remote', hkind⟩
    obtain ⟨href', rfl⟩ := ((hasField_iff hs hg ho).mp hf).of_many hkind
    rw [(href'.unique href).2]
  case references =>
    intro name o f ho hf
    have hasks := (hasField_iff hs hg ho).mp hf
    exact ⟨fun _ _ _ hkind => (hasks.of_one hkind).1, fun _ _ _ hkind => (hasks.of_many hkind).1⟩
  case inverse =>
    intro a b o o' ho ho' localKey remoteKey
    rw [existsUnique_one_iff hs hg ho, existsUnique_many_iff hs hg ho']

end Projects

/-- A schema of described tables has no type graph exactly if two fields of one table come to have one
name, and then such a field is the error. The type graph that it has otherwise is its projection. -/
theorem ofSchema_projects {tables : List Catalog.Table} {s : Schema}
    (h : Schema.ofTables tables = .ok s) :
    ((∃ e, ofSchema s = .error e) ↔ ∃ table a b, s.Collision table a b) ∧
    (∀ e, ofSchema s = .error e →
      ∃ table a b, s.Collision table a b ∧ e = .duplicateField table a.fieldName) ∧
    ∀ g, ofSchema s = .ok g → g.Projects s := by
  have hs := Schema.wellFormed_of_ofTables h
  refine ⟨⟨?_, ?_⟩, fun e he => exists_collision_of_error hs he, fun g hg => projects hs hg⟩
  · rintro ⟨e, he⟩
    obtain ⟨table, a, b, hcollision, -⟩ := exists_collision_of_error hs he
    exact ⟨table, a, b, hcollision⟩
  · rintro ⟨table, a, b, hcollision⟩
    cases hg : ofSchema s with
    | error e => exact ⟨e, rfl⟩
    | ok g => exact absurd hcollision (not_collision_of_ok hs hg)

/-- Two foreign keys that point at one table from differently cut names. -/
def clashingTables : List Catalog.Table := [
  { namespaceName := "shop", name := "visits"
    columns := [⟨"id", "INTEGER", false, true⟩] },
  { namespaceName := "shop", name := "calls_on_day"
    columns := [⟨"visit", "INTEGER", true, false⟩]
    foreignKeys := [⟨"visit", "visits", "id"⟩] },
  { namespaceName := "shop", name := "calls"
    columns := [⟨"day_on_visit", "INTEGER", true, false⟩]
    foreignKeys := [⟨"day_on_visit", "visits", "id"⟩] }]

theorem ofSchema_projects_shop :
    (∃ s g, Schema.ofTables Schema.shopTables = .ok s ∧ ofSchema s = .ok g ∧ g.Projects s) ∧
    ∃ s a b, Schema.ofTables clashingTables = .ok s ∧
      ofSchema s = .error (.duplicateField "visits" "calls_on_day_on_visit") ∧
      s.Collision "visits" a b := by
  have hshop : ((Schema.ofTables Schema.shopTables).toOption.any fun s =>
      (ofSchema s).toOption.any fun _ => true) = true := by
    decide +kernel
  have hclash : ((Schema.ofTables clashingTables).toOption.any fun s =>
      match ofSchema s with
      | .error e => decide (e = .duplicateField "visits" "calls_on_day_on_visit")
      | .ok _ => false) = true := by
    decide +kernel
  constructor
  · obtain ⟨s, hs, hgraph⟩ := exists_ok_of_any hshop
    obtain ⟨g, hg, -⟩ := exists_ok_of_any hgraph
    exact ⟨s, g, hs, hg, (ofSchema_projects hs).2.2 g hg⟩
  · obtain ⟨s, hs, herror⟩ := exists_ok_of_any hclash
    cases hg : ofSchema s with
    | ok g =>
      rw [hg] at herror
      cases herror
    | error e =>
      rw [hg] at herror
      obtain rfl := of_decide_eq_true herror
      obtain ⟨table, a, b, hcollision, he⟩ := (ofSchema_projects hs).2.1 _ hg
      obtain ⟨rfl, -⟩ := TypeGraphError.duplicateField.inj he
      exact ⟨s, a, b, hs, hg, hcollision⟩

end TypeGraph

end NestedRows
