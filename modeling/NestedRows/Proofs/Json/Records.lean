import NestedRows.Catalog.Table
import NestedRows.Proofs.Json.Document
import NestedRows.Proofs.Schema.Fingerprint
import NestedRows.Selection.Basic
/-!
# Records read back

What is written of a selection, of the description of a table or of the definition of a column is read as
what was written (`Json.readText_toJson`), whatever texts stand in it. A column that has been read is not
declared. A selection can be deeper than a reader may go: it is read back exactly if its brackets do not
nest deeper than that.
-/

namespace NestedRows

open Json Json.Document

namespace Json

mutual

/-- How deep the brackets of a value nest. -/
def nesting : Json → Nat
  | arr items => itemsNesting items + 1
  | obj fields => fieldsNesting fields + 1
  | null | bool _ | int _ | float _ | str _ => 0

def itemsNesting : List Json → Nat
  | [] => 0
  | item :: items => max item.nesting (itemsNesting items)

def fieldsNesting : List (String × Json) → Nat
  | [] => 0
  | (_, value) :: fields => max value.nesting (fieldsNesting fields)

end

end Json

/-! ### Selections -/

namespace Selection

theorem toJson_branch (name : String) (child : Selection) (rest : List Selection) :
    (node name (child :: rest)).toJson =
      .obj [("name", .str name), ("selection", .arr (toJsonList (child :: rest)))] := by
  rw [toJson, toJsonList]

theorem nesting_leaf (name : String) : (node name []).toJson.nesting = 1 := by
  rw [toJson]
  rfl

theorem nesting_branch (name : String) (child : Selection) (rest : List Selection) :
    (node name (child :: rest)).toJson.nesting = itemsNesting (toJsonList (child :: rest)) + 2 := by
  rw [toJson_branch]
  simp [nesting, fieldsNesting]

mutual

theorem numberFree_toJson : (s : Selection) → s.toJson.numberFree = true
  | node name [] => by
    rw [toJson]
    rfl
  | node name (child :: rest) => by
    rw [toJson_branch]
    simp [numberFree, fieldsNumberFree, numberFree_toJsonList (child :: rest)]

theorem numberFree_toJsonList : (l : List Selection) → itemsNumberFree (toJsonList l) = true
  | [] => by rw [toJsonList, itemsNumberFree]
  | s :: rest => by
    rw [toJsonList, itemsNumberFree, numberFree_toJson s, numberFree_toJsonList rest]
    rfl

end

theorem record?_leaf (name : String) (depth : Nat) :
    record? [("name", .required), ("selection", .defaulted)] (depth + 1)
        (document (.obj [("name", .str name)])) =
      some (depth, [some (document (.str name)), none]) :=
  record?_document_append [("name", .required)] [("selection", .defaulted)] rfl (by decide) (by decide)
    depth

theorem record?_branch (name : String) (items : List Json) (depth : Nat) :
    record? [("name", .required), ("selection", .defaulted)] (depth + 1)
        (document (.obj [("name", .str name), ("selection", .arr items)])) =
      some (depth, [some (document (.str name)), some (.array (documents items))]) :=
  record?_document rfl (by decide) depth

theorem ofDocument?_leaf (name : String) (depth : Nat) :
    ofDocument? depth (node name []).toJson.document =
      if 1 ≤ depth then some (node name []) else none := by
  rw [toJson]
  match depth with
  | 0 => rfl
  | 1 => simp [ofDocument?, record?_leaf]
  | depth + 2 => simp [ofDocument?, record?_leaf]

theorem ofDocument?_branch (name : String) (child : Selection) (rest : List Selection) (depth : Nat) :
    ofDocument? (depth + 2) (node name (child :: rest)).toJson.document =
      ((documents (toJsonList (child :: rest))).mapM (ofDocument? depth)).map (node name) := by
  rw [toJson_branch, ofDocument?, record?_branch]
  simp [Option.map_eq_bind]

mutual

/-- A selection is read back if the reader may go as deep as its brackets nest. -/
theorem ofDocument?_toJson : (s : Selection) → (depth : Nat) →
    ofDocument? depth s.toJson.document = if s.toJson.nesting ≤ depth then some s else none
  | node name [], depth => by rw [ofDocument?_leaf, nesting_leaf]
  | node name (child :: rest), 0 => by
    rw [nesting_branch]
    rfl
  | node name (child :: rest), 1 => by
    rw [nesting_branch, toJson_branch, ofDocument?, record?_branch]
    simp
  | node name (child :: rest), depth + 2 => by
    rw [ofDocument?_branch, mapM_toJsonList (child :: rest) depth, nesting_branch]
    simp only [Nat.add_le_add_iff_right]
    split <;> rfl

theorem mapM_toJsonList : (l : List Selection) → (depth : Nat) →
    (documents (toJsonList l)).mapM (ofDocument? depth) =
      if itemsNesting (toJsonList l) ≤ depth then some l else none
  | [], depth => by
    rw [toJsonList, documents, itemsNesting, if_pos (Nat.zero_le depth)]
    rfl
  | s :: rest, depth => by
    rw [toJsonList, documents, itemsNesting, List.mapM_cons, ofDocument?_toJson s depth,
      mapM_toJsonList rest depth]
    simp only [Nat.max_le]
    by_cases hs : s.toJson.nesting ≤ depth
    · by_cases hrest : itemsNesting (toJsonList rest) ≤ depth <;> simp [hs, hrest]
    · simp [hs]

end

end Selection

/-! ### Tables -/

namespace Catalog

theorem Column.ofDocument?_toJson (c : Column) (depth : Nat) :
    Column.ofDocument? (depth + 1) c.toJson.document = some c := by
  rw [Column.ofDocument?, Column.toJson, record?_document rfl (by decide)]
  simp

theorem ForeignKey.ofDocument?_toJson (k : ForeignKey) (depth : Nat) :
    ForeignKey.ofDocument? (depth + 1) k.toJson.document = some k := by
  rw [ForeignKey.ofDocument?, ForeignKey.toJson, record?_document rfl (by decide)]
  simp

theorem Table.ofDocument?_toJson (t : Table) (depth : Nat) :
    Table.ofDocument? (depth + 3) t.toJson.document = some t := by
  have hcolumns := list?_document (fun c => Column.ofDocument?_toJson c depth) t.columns
  have hkeys := list?_document (fun k => ForeignKey.ofDocument?_toJson k depth) t.foreignKeys
  rw [Table.ofDocument?, Table.toJson, record?_document rfl (by decide)]
  simp [hcolumns, hkeys]

theorem Table.numberFree_toJson (t : Table) : t.toJson.numberFree = true := by
  have hcolumns : itemsNumberFree (t.columns.map Column.toJson) = true :=
    itemsNumberFree_map (fun _ => rfl) _
  have hkeys : itemsNumberFree (t.foreignKeys.map ForeignKey.toJson) = true :=
    itemsNumberFree_map (fun _ => rfl) _
  simp [Table.toJson, numberFree, fieldsNumberFree, hcolumns, hkeys]

end Catalog

/-! ### Columns -/

theorem QualifiedName.ofDocument?_toJson (n : QualifiedName) : ofDocument? n.toJson.document = some n := by
  rw [ofDocument?, toJson, text?_document_str, Option.bind_eq_bind, Option.bind_some, parse_toText]

theorem FieldType.ofDocument?_toText (t : FieldType) (depth : Nat) :
    ofDocument? depth (document (.str t.toText)) = some t := by
  rw [document, ofDocument?]
  cases t <;> rfl

theorem Key.ofDocument?_toJson (k : Key) (depth : Nat) :
    ofDocument? (depth + 2) k.toJson.document = some { k with declared := false } := by
  have hby : list? (fun _ => QualifiedName.ofDocument?) (depth + 1)
      (document (.arr (k.referencedBy.toList.map QualifiedName.toJson))) = some k.referencedBy.toList :=
    list?_document QualifiedName.ofDocument?_toJson _
  rw [ofDocument?, toJson, record?_document rfl (by decide)]
  cases hreferencing : k.referencing with
  | none =>
    have hnull : document .null = .null := rfl
    simp [hnull, hby, FieldType.ofDocument?_toText, QualifiedName.ofDocument?_toJson,
      SortedSet.ofList_toList]
  | some target =>
    have hstring : target.toJson.document = .string (partsOf target.toText) := rfl
    have htarget : QualifiedName.ofDocument? (.string (partsOf target.toText)) = some target :=
      target.ofDocument?_toJson
    simp [hstring, htarget, hby, FieldType.ofDocument?_toText, QualifiedName.ofDocument?_toJson,
      SortedSet.ofList_toList]

/-- **Records read back.** What was written is read again, whatever texts stand in it. -/
theorem Json.readText_toJson :
    (∀ s : Selection, readText Selection.ofDocument? s.toJson.render
      = if s.toJson.nesting ≤ maxDepth then some s else none) ∧
    (∀ t : Catalog.Table, readText Catalog.Table.ofDocument? t.toJson.render = some t) ∧
    ∀ k : Key, readText Key.ofDocument? k.toJson.render = some { k with declared := false } := by
  refine ⟨fun s => ?_, fun t => ?_, fun k => ?_⟩
  · rw [readText_render _ s.numberFree_toJson]
    exact s.ofDocument?_toJson maxDepth
  · rw [readText_render _ t.numberFree_toJson]
    exact t.ofDocument?_toJson 124
  · rw [readText_render _ (Schema.numberFree_key k)]
    exact k.ofDocument?_toJson 125

end NestedRows
