import NestedRows.Proofs.Sql.Meaning
import NestedRows.Proofs.Json.Text
/-!
# Values of a type

Values of one type that may stand in a key are told apart by their text, so rows that are matched by
text are the rows that the database matches. Doubles are no keys here: a double may have no text of its
own, and the two zeros have different ones.
-/

namespace NestedRows

namespace Sql.Literal

/-- The value is null or of the type. Whole numbers have 64 bits. -/
def HasType : FieldType → Literal → Prop
  | _, .null => True
  | .int, .int n => -0x8000000000000000 ≤ n ∧ n < 0x8000000000000000
  | .float, .float _ => True
  | .string, .text _ => True
  | .bool, .bool _ => True
  | _, _ => False

instance (t : FieldType) (v : Literal) : Decidable (HasType t v) := by
  cases v <;> cases t <;>
    first | exact isTrue trivial | exact isFalse id | exact inferInstanceAs (Decidable (_ ∧ _))

@[simp] theorem null_agrees (w : Literal) : agrees .null w = false := rfl

@[simp] theorem agrees_null (v : Literal) : agrees v .null = false := by cases v <;> rfl

theorem ne_null_of_agrees {v w : Literal} (h : v.agrees w = true) : v ≠ .null ∧ w ≠ .null := by
  constructor
  · rintro rfl
    simp at h
  · rintro rfl
    simp at h

section Key

variable {t : FieldType} (ht : t ≠ .float) {v w : Literal} (hv : v.HasType t)

include ht hv

theorem agrees_iff (hw : w.HasType t) : v.agrees w = true ↔ v = w ∧ v ≠ .null := by
  cases v <;> cases w <;> cases t <;> simp_all [HasType, agrees, equals, same]

theorem ofJson?_toJson : ofJson? v.toJson = some v := by
  cases v <;> cases t <;> simp_all [HasType, toJson, ofJson?]

theorem keyOf_toJson_eq_none_iff : keyOf v.toJson = none ↔ v = .null := by
  cases v <;> cases t <;> simp_all [HasType, toJson, keyOf]

theorem toJson_ne_null (hne : v ≠ .null) : v.toJson ≠ .null := by
  intro hnull
  refine hne ((keyOf_toJson_eq_none_iff ht hv).mp ?_)
  rw [hnull]
  rfl

omit ht in
theorem kinds_of_hasType (hw : w.HasType t) (hvnull : v ≠ .null) (hwnull : w ≠ .null) :
    (∃ m n, v = .int m ∧ w = .int n) ∨ (∃ x y, v = .float x ∧ w = .float y ∧ t = .float) ∨
      (∃ a b, v = .text a ∧ w = .text b) ∨ ∃ a b, v = .bool a ∧ w = .bool b := by
  cases v <;> cases w <;> cases t <;> simp_all [HasType]

/-- Key values of one type have the same text only if they are the same. -/
theorem eq_of_keyOf_toJson_eq (hw : w.HasType t) (h : keyOf v.toJson = keyOf w.toJson) : v = w := by
  by_cases hvnull : v = .null
  · rw [(keyOf_toJson_eq_none_iff ht hv).mpr hvnull] at h
    rw [hvnull, (keyOf_toJson_eq_none_iff ht hw).mp h.symm]
  by_cases hwnull : w = .null
  · rw [(keyOf_toJson_eq_none_iff ht hw).mpr hwnull] at h
    exact absurd ((keyOf_toJson_eq_none_iff ht hv).mp h) hvnull
  have hchars : ∀ {a b : Json}, some a.render = some b.render → a.renderChars = b.renderChars := by
    intro a b hab
    have := congrArg String.toList (Option.some.inj hab)
    rwa [Json.render, Json.render, String.toList_ofList, String.toList_ofList] at this
  rcases kinds_of_hasType hv hw hvnull hwnull with ⟨m, n, rfl, rfl⟩ | ⟨x, y, -, -, rfl⟩ |
    ⟨a, b, rfl, rfl⟩ | ⟨a, b, rfl, rfl⟩
  · have hdigits := hchars h
    rw [toJson, toJson, Json.renderChars, Json.renderChars] at hdigits
    rw [intDigits_injective hdigits]
  · exact absurd rfl ht
  · have htext := hchars h
    rw [toJson, toJson, Json.renderChars, Json.renderChars] at htext
    rw [Json.renderString_injective htext]
  · cases a <;> cases b <;> first | rfl | exact absurd (hchars h) (by decide)

end Key

/-! ### Conditions on keys -/

theorem either_eq_true_iff (v w : Literal) :
    v.either w = .bool true ↔ v = .bool true ∨ w = .bool true := by
  rw [either.eq_def]
  split <;> simp_all

end Sql.Literal

namespace Sql

theorem evalIn_literals_iff (scope : Scope) (v : Literal) (keys : List Literal) :
    evalIn scope v (keys.map .literal) = .bool true ↔ keys.any v.agrees = true := by
  induction keys with
  | nil => simp [evalIn]
  | cons k rest ih =>
    rw [List.map_cons, evalIn, Literal.either_eq_true_iff, ih, List.any_cons, Expr.eval,
      Bool.or_eq_true, Literal.agrees, beq_iff_eq]

end Sql

end NestedRows
