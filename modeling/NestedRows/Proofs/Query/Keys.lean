import NestedRows.Query.Assemble
import NestedRows.Proofs.Decimal.Notation
/-!
# The constants that restrict a lower statement

A lower statement is restricted to the values of a column of the rows above. Null has no key, and arrays
and objects are no constants, so they are left out at different times: null when the values are compared,
the others when the constants are made. That comes to the same as taking the scalars and the first of each
text among them (`map_some_distinctKeys`), because the text of an array or an object begins with a bracket
and that of a scalar does not.
-/

namespace NestedRows

namespace Json

/-- A truth value, a number or a string. -/
def isScalar : Json → Bool
  | bool _ | int _ | float _ | str _ => true
  | null | arr _ | obj _ => false

def sameText (v w : Json) : Bool := v.render = w.render

def IsBracket (c : Char) : Prop := c = '[' ∨ c = '\x7b'

theorem not_isBracket_of_isDigit {c : Char} (h : c.isDigit = true) : ¬ IsBracket c := by
  rintro (rfl | rfl) <;> cases h

theorem not_isBracket_of_mem_intDigits {n : Int} : ∀ c ∈ (intDigits n).head?, ¬ IsBracket c := by
  have hdigits : ∀ c ∈ (Binary64.digitsOf n.natAbs).head?, ¬ IsBracket c := by
    intro c hc
    exact not_isBracket_of_isDigit (Binary64.isDigit_of_mem_digitsOf (List.mem_of_mem_head? hc))
  rw [intDigits]
  split
  · simp [IsBracket]
  · exact hdigits

theorem not_isBracket_of_mem_float {x : Binary64} (hx : x.isFinite = true) :
    ∀ c ∈ (x.render .json).toList.head?, ¬ IsBracket c := by
  obtain ⟨text, v, htext, hwrites, -⟩ := Binary64.exists_writes_render hx .json
  obtain ⟨d, hd, hdigit⟩ := hwrites.exists_head
  rw [htext, String.toList_ofList]
  cases x.negative with
  | true => simp [IsBracket]
  | false =>
    intro c hc
    obtain rfl := Option.mem_unique hc hd
    exact not_isBracket_of_isDigit hdigit

theorem not_isBracket_of_isScalar {v : Json} (h : v.isScalar = true) :
    ∀ c ∈ v.renderChars.head?, ¬ IsBracket c := by
  cases v with
  | null | arr _ | obj _ => cases h
  | bool b => cases b <;> simp [renderChars, IsBracket]
  | int n => exact not_isBracket_of_mem_intDigits
  | str s => simp [renderChars, renderString, IsBracket]
  | float x =>
    rw [renderChars]
    split
    case isTrue hx => exact not_isBracket_of_mem_float hx
    case isFalse => simp [IsBracket]

theorem exists_isBracket {v : Json} (hnull : v ≠ null) (h : v.isScalar = false) :
    ∃ c ∈ v.renderChars.head?, IsBracket c := by
  cases v with
  | null => exact absurd rfl hnull
  | bool _ | int _ | float _ | str _ => cases h
  | arr items => cases items <;> exact ⟨'[', rfl, .inl rfl⟩
  | obj fields => cases fields <;> exact ⟨'\x7b', rfl, .inr rfl⟩

/-- A scalar has no text in common with an array or an object. -/
theorem render_ne_of_isScalar {v w : Json} (hv : v.isScalar = true) (hnull : w ≠ null)
    (hw : w.isScalar = false) : v.render ≠ w.render := by
  intro heq
  obtain ⟨c, hc, hbracket⟩ := exists_isBracket hnull hw
  rw [← String.ofList_injective heq] at hc
  exact not_isBracket_of_isScalar hv c hc hbracket

theorem ofJson?_of_isScalar {v : Json} (h : v.isScalar = true) :
    ∃ literal, Sql.Literal.ofJson? v = some literal := by
  cases v with
  | null | arr _ | obj _ => cases h
  | bool b => exact ⟨_, rfl⟩
  | float x => exact ⟨_, rfl⟩
  | str s => exact ⟨_, rfl⟩
  | int n =>
    rw [Sql.Literal.ofJson?]
    split <;> exact ⟨_, rfl⟩

theorem ofJson?_of_not_isScalar {v : Json} (hnull : v ≠ null) (h : v.isScalar = false) :
    Sql.Literal.ofJson? v = none := by
  cases v with
  | null => exact absurd rfl hnull
  | bool _ | int _ | float _ | str _ => cases h
  | arr _ | obj _ => rfl

end Json

theorem keyOf_of_ne_null {v : Json} (h : v ≠ .null) : keyOf v = some v.render := by
  cases v with
  | null => exact absurd rfl h
  | _ => rfl

/-- The scalars of a column in the order of the rows. -/
def scalarsOf (rows : List Row) (column : String) : List Json :=
  (rows.filterMap (·.get? column)).filter Json.isScalar

/-- `seen` may hold the texts of arrays and objects too: no scalar is held up by them. -/
theorem filterMap_distinctValues {l firsts : List Json} {seen : List String}
    (hseen : ∀ v : Json, v.isScalar = true → (v.render ∈ seen ↔ firsts.any v.sameText = true)) :
    (List.eraseDupsBy.loop Json.sameText (l.filter Json.isScalar) firsts).map Sql.Literal.ofJson?
      = firsts.reverse.map Sql.Literal.ofJson?
        ++ ((distinctValues seen l).filterMap Sql.Literal.ofJson?).map some := by
  induction l generalizing firsts seen with
  | nil => simp [distinctValues, List.eraseDupsBy.loop]
  | cons v rest ih =>
    by_cases hnull : v = .null
    · subst hnull
      exact ih hseen
    rw [distinctValues, keyOf_of_ne_null hnull]
    dsimp only
    cases hscalar : v.isScalar with
    | false =>
      rw [List.filter_cons_of_neg (by simp [hscalar])]
      split
      case isTrue => exact ih hseen
      case isFalse =>
        rw [List.filterMap_cons_none (Json.ofJson?_of_not_isScalar hnull hscalar)]
        apply ih
        intro w hw
        rw [List.mem_cons, or_iff_right (Json.render_ne_of_isScalar hw hnull hscalar)]
        exact hseen w hw
    | true =>
      have hiff : seen.contains v.render = true ↔ firsts.any v.sameText = true :=
        List.contains_iff_mem.trans (hseen v hscalar)
      rw [List.filter_cons_of_pos hscalar, List.eraseDupsBy.loop]
      cases hfirst : firsts.any v.sameText with
      | true =>
        rw [if_pos (hiff.mpr hfirst)]
        exact ih hseen
      | false =>
        obtain ⟨literal, hliteral⟩ := Json.ofJson?_of_isScalar hscalar
        have hnew : ¬ seen.contains v.render = true := fun h => by simp [hiff.mp h] at hfirst
        have hlater : ∀ w : Json, w.isScalar = true →
            (w.render ∈ v.render :: seen ↔ (v :: firsts).any w.sameText = true) := by
          intro w hw
          rw [List.mem_cons, List.any_cons, Bool.or_eq_true, hseen w hw, Json.sameText,
            decide_eq_true_iff]
        rw [if_neg hnew, List.filterMap_cons_some hliteral]
        dsimp only
        rw [ih hlater]
        simp [hliteral]

/-- **The keys of a column.** There is one constant for each text of a scalar, made of the first
scalar that has it. -/
theorem map_some_distinctKeys (rows : List Row) (column : String) :
    (distinctKeys rows column).map some
      = ((scalarsOf rows column).eraseDupsBy Json.sameText).map Sql.Literal.ofJson? := by
  have hseen : ∀ v : Json, v.isScalar = true →
      (v.render ∈ ([] : List String) ↔ ([] : List Json).any v.sameText = true) := by simp
  exact (filterMap_distinctValues hseen).symm

theorem distinctKeys_eq_nil_iff {rows : List Row} {column : String} :
    distinctKeys rows column = [] ↔ scalarsOf rows column = [] := by
  rw [← List.map_eq_nil_iff (f := some), map_some_distinctKeys, List.map_eq_nil_iff]
  cases scalarsOf rows column with
  | nil => exact iff_of_true rfl rfl
  | cons v rest => simp [List.eraseDupsBy_cons]

end NestedRows
