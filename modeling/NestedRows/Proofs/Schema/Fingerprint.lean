import NestedRows.Proofs.Json.Text
import NestedRows.Proofs.Schema.Build
import Mathlib.Data.List.Basic
/-!
# The text that is digested

The JSON text of a schema tells everything that the schema says about its columns: two finished drafts
have the same text only if they are the same schema (`Draft.render_eq_iff`). What the text leaves out,
whether a column is declared, is the same for all columns of a finished draft.

No name can spoil this, whatever characters it holds. The text of a value tells where the value ends
(`Json.render_injective`), and a name of a column tells its two parts because neither holds the
separator.
-/

namespace NestedRows

theorem QualifiedName.toJson_injective : Function.Injective QualifiedName.toJson :=
  fun _ _ h => toText_injective (Json.str.inj h)

theorem FieldType.toText_injective : Function.Injective FieldType.toText := by
  intro s t h
  cases s <;> cases t <;> first | rfl | exact absurd h (by decide)

/-- The JSON of a column tells everything but whether the column is declared. -/
theorem Key.eq_of_toJson {k k' : Key} (hdeclared : k.declared = k'.declared)
    (h : k.toJson = k'.toJson) : k = k' := by
  obtain ⟨name, fieldType, nullable, primaryKey, referencing, referencedBy, declared⟩ := k
  obtain ⟨name', fieldType', nullable', primaryKey', referencing', referencedBy', declared'⟩ := k'
  simp only [toJson, Json.obj.injEq, List.cons.injEq, Prod.mk.injEq, true_and, and_true, Json.str.injEq,
    Json.bool.injEq, Json.arr.injEq] at h
  obtain ⟨hname, htype, rfl, rfl, hreferencing, hreferencedBy⟩ := h
  obtain rfl := QualifiedName.toJson_injective hname
  obtain rfl := FieldType.toText_injective htype
  obtain rfl : referencedBy = referencedBy' :=
    SortedSet.ext (List.map_injective_iff.mpr QualifiedName.toJson_injective hreferencedBy)
  have htarget : referencing = referencing' := by
    cases referencing with
    | none =>
      cases referencing' with
      | none => rfl
      | some target' => cases hreferencing
    | some target =>
      cases referencing' with
      | none => cases hreferencing
      | some target' => rw [QualifiedName.toJson_injective hreferencing]
  cases hdeclared
  rw [htarget]

namespace Schema

/-- Every column is known by a description of its own. -/
def AllDeclared (s : Schema) : Prop :=
  ∀ table t column k, s.tables.get? table = some t → t.columns.get? column = some k → k.declared = true

theorem Table.eq_of_toJson {t t' : Table}
    (hdeclared : ∀ column k, t.columns.get? column = some k → k.declared = true)
    (hdeclared' : ∀ column k, t'.columns.get? column = some k → k.declared = true)
    (h : t.toJson = t'.toJson) : t = t' := by
  obtain ⟨name, columns⟩ := t
  obtain ⟨name', columns'⟩ := t'
  simp only [toJson, Json.obj.injEq, List.cons.injEq, Prod.mk.injEq, true_and, and_true,
    Json.str.injEq] at h
  obtain ⟨rfl, hcolumns⟩ := h
  have heq : columns = columns' := SortedMap.eq_of_mapValues (SortedMap.ext hcolumns)
    fun c k k' hk hk' hjson => Key.eq_of_toJson
      ((hdeclared c k hk).trans (hdeclared' c k' hk').symm) hjson
  rw [heq]

theorem eq_of_toJson {s s' : Schema} (hs : s.AllDeclared) (hs' : s'.AllDeclared)
    (h : s.toJson = s'.toJson) : s = s' := by
  obtain ⟨tables⟩ := s
  obtain ⟨tables'⟩ := s'
  simp only [toJson, Json.obj.injEq, List.cons.injEq, Prod.mk.injEq, true_and, and_true] at h
  have heq : tables = tables' := SortedMap.eq_of_mapValues (SortedMap.ext h)
    fun name t t' ht ht' hjson => Table.eq_of_toJson (fun c k => hs name t c k ht)
      (fun c k => hs' name t' c k ht') hjson
  rw [heq]

/-! ### A schema holds no number -/

theorem numberFree_key (k : Key) : k.toJson.numberFree = true := by
  rw [Key.toJson, Json.numberFree, Json.fieldsNumberFree_iff]
  simp only [List.mem_cons, List.not_mem_nil, or_false]
  rintro f (rfl | rfl | rfl | rfl | rfl | rfl)
  · rfl
  · rfl
  · rfl
  · rfl
  · cases k.referencing <;> rfl
  · rw [Json.numberFree]
    exact Json.itemsNumberFree_map (fun _ => rfl) _

theorem numberFree_mapValues {α : Type} {m : SortedMap String α} {f : α → Json}
    (h : ∀ v, (f v).numberFree = true) :
    (Json.obj (m.mapValues fun _ v => f v).toList).numberFree = true := by
  rw [Json.numberFree, Json.fieldsNumberFree_iff]
  intro e he
  obtain ⟨v, -, rfl⟩ := List.mem_map.mp he
  exact h v.2

theorem numberFree_table (t : Table) : t.toJson.numberFree = true := by
  rw [Table.toJson, Json.numberFree, Json.fieldsNumberFree_iff]
  simp only [List.mem_cons, List.not_mem_nil, or_false]
  rintro f (rfl | rfl)
  · rfl
  · exact numberFree_mapValues numberFree_key

theorem numberFree_toJson (s : Schema) : s.toJson.numberFree = true := by
  rw [toJson, Json.numberFree, Json.fieldsNumberFree_iff]
  simp only [List.mem_cons, List.not_mem_nil, or_false]
  rintro f rfl
  exact numberFree_mapValues numberFree_table

/-- The text that is digested tells the schema. -/
theorem render_eq_iff {s s' : Schema} (hs : s.AllDeclared) (hs' : s'.AllDeclared) :
    s.toJson.render = s'.toJson.render ↔ s = s' := by
  constructor
  · intro h
    exact eq_of_toJson hs hs' (Json.render_injective s.numberFree_toJson s'.numberFree_toJson h)
  · rintro rfl
    rfl

end Schema

theorem Draft.build_allDeclared {d : Draft} {s : Schema} (h : d.build = .ok s) : s.AllDeclared := by
  obtain ⟨hclean, rfl⟩ := build_eq_ok_iff.mp h
  intro table t column k ht hk
  obtain ⟨columns, hcolumns, rfl⟩ := get?_finished.mp ht
  exact (tableError?_eq_none_iff.mp (hclean table columns hcolumns)).1 column k hk

theorem Schema.exists_draft {tables : List Catalog.Table} {s : Schema} (h : ofTables tables = .ok s) :
    ∃ d, Draft.build d = .ok s := by
  rw [ofTables] at h
  split at h
  · cases h
  · exact ⟨_, h⟩

theorem Schema.ofTables_allDeclared {tables : List Catalog.Table} {s : Schema}
    (h : ofTables tables = .ok s) : s.AllDeclared := by
  obtain ⟨d, hd⟩ := exists_draft h
  exact Draft.build_allDeclared hd

/-! ### Digests -/

/-- The two texts have the same digest only if they are the same. -/
def Sha256.Separates (a b : String) : Prop := hexDigestOfText a = hexDigestOfText b → a = b

/-- Where the digest does not collide, the fingerprint tells the schema. -/
theorem Schema.fingerprint_eq_iff {s s' : Schema} (hs : s.AllDeclared) (hs' : s'.AllDeclared)
    (hseparates : Sha256.Separates s.toJson.render s'.toJson.render) :
    s.fingerprint = s'.fingerprint ↔ s = s' := by
  constructor
  · intro h
    exact (render_eq_iff hs hs').mp (hseparates h)
  · rintro rfl
    rfl

end NestedRows
