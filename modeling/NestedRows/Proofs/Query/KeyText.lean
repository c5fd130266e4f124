import NestedRows.Proofs.Query.Nesting
import NestedRows.Proofs.Sql.Value
/-!
# Texts as keys

Rows below are given to the rows above by the text of their key values, and the database brings them by the
values. Two values of one type with one text are one value, and values that the database takes for equal have
one text, but for the two zeros among the doubles: these are one number with two texts (`keyOf_faithful`). So a
row that is brought for the other zero than its own is given to nobody.
-/

namespace NestedRows

namespace Sql.Literal

/-- Whether the values are the two zeros among the doubles. -/
def zeros : Literal → Literal → Bool
  | .float x, .float y => x.code == 0 && y.code == 0 && x.negative != y.negative
  | _, _ => false

/-- Doubles are equal in the database if they are the same number. -/
theorem agrees_float_iff {x y : Binary64} : agrees (.float x) (.float y) = true ↔ x.value = y.value := by
  rw [Binary64.value_eq_iff]
  simp [agrees, equals, same]

theorem zeros_float_iff {x y : Binary64} : zeros (.float x) (.float y) = true ↔
    x.code = 0 ∧ y.code = 0 ∧ x.negative ≠ y.negative := by
  simp [zeros, and_assoc]

theorem zeros_self (v : Literal) : v.zeros v = false := by
  cases v <;> simp [zeros]

theorem agrees_iff_eq_or_zeros {v w : Literal} (hv : v ≠ .null) :
    v.agrees w = true ↔ v = w ∨ v.zeros w = true := by
  cases v with
  | null => exact absurd rfl hv
  | float x =>
    cases w with
    | float y =>
      rw [agrees_float_iff, Binary64.value_eq_iff, zeros_float_iff, float.injEq]
      constructor
      · rintro (heq | ⟨hx, hy⟩)
        · exact .inl heq
        · by_cases hsign : x.negative = y.negative
          · exact .inl (Binary64.eq_of_code hsign (hx.trans hy.symm))
          · exact .inr ⟨hx, hy, hsign⟩
      · exact Or.imp_right fun h => ⟨h.1, h.2.1⟩
    | _ => simp [agrees, equals, same, zeros]
  | _ => cases w <;> simp [agrees, equals, same, zeros]

section Key

variable {t : FieldType} {v w : Literal}

theorem keyOf_float {x : Binary64} (hx : x.isFinite = true) :
    keyOf (toJson (.float x)) = some (x.render .json) := by
  have hne : Json.float x ≠ .null := by simp
  rw [toJson, Json.ofFloat, if_pos hx, keyOf_of_ne_null hne, Json.render, Json.renderChars, if_pos hx,
    String.ofList_toList]

/-- A double that is decoded as null is no number. -/
theorem isFinite_of_toJson {x : Binary64} (h : toJson (.float x) ≠ .null) : x.isFinite = true := by
  by_contra hx
  rw [toJson, Json.ofFloat, if_neg hx] at h
  exact h rfl

/-- Values of one type that are not decoded as null have the same text only if they are the same. -/
theorem eq_of_key_eq (hv : v.HasType t) (hw : w.HasType t) (hvalue : w.toJson ≠ .null)
    (h : keyOf v.toJson = keyOf w.toJson) : v = w := by
  by_cases ht : t = .float
  · subst ht
    have hsome : ∃ k, keyOf w.toJson = some k := ⟨_, keyOf_of_ne_null hvalue⟩
    have hvalue' : v.toJson ≠ .null := by
      intro hnull
      rw [hnull] at h
      obtain ⟨k, hk⟩ := hsome
      rw [hk] at h
      cases h
    cases v with
    | float x =>
      cases w with
      | float y =>
        have hx := isFinite_of_toJson hvalue'
        have hy := isFinite_of_toJson hvalue
        rw [keyOf_float hx, keyOf_float hy] at h
        rw [Binary64.eq_of_render_eq hx hy (Option.some.inj h)]
      | null => exact absurd rfl hvalue
      | _ => cases hw
    | null => exact absurd rfl hvalue'
    | _ => cases hv
  · exact eq_of_keyOf_toJson_eq ht hv hw h

theorem key_eq_iff (hv : v.HasType t) (hw : w.HasType t) (hvalue : w.toJson ≠ .null) :
    keyOf v.toJson = keyOf w.toJson ↔ v.agrees w = true ∧ v.zeros w = false := by
  have hwnull : w ≠ .null := fun hnull => hvalue (hnull ▸ rfl)
  constructor
  · intro h
    obtain rfl := eq_of_key_eq hv hw hvalue h
    exact ⟨(agrees_iff_eq_or_zeros hwnull).mpr (.inl rfl), v.zeros_self⟩
  · rintro ⟨hagrees, hzeros⟩
    have heq := (agrees_iff_eq_or_zeros (ne_null_of_agrees hagrees).1).mp hagrees
    rw [heq.resolve_right (by simp [hzeros])]

end Key

end Sql.Literal

/-- A row above gets the rows below whose value the database takes for equal to its own, except for the other
zero. -/
theorem Fetch.matching_eq {t : FieldType} {fetch : Fetch} {c : OutputColumn} (hfilter : fetch.filter = some c)
    {batch : List Row} {cell : Row → Sql.Literal}
    (hcell : ∀ below ∈ batch, below.get? c.name = some (cell below).toJson ∧ (cell below).HasType t)
    {above : Row} {parentKey : String} {v : Sql.Literal} (hv : v.HasType t) (hvalue : v.toJson ≠ .null)
    (habove : above.get? parentKey = some v.toJson) :
    fetch.matching batch above parentKey
      = batch.filter fun below => (cell below).agrees v && !(cell below).zeros v := by
  refine List.filter_congr fun below hbelow => ?_
  obtain ⟨hget, htype⟩ := hcell below hbelow
  have hkey := keyOf_of_ne_null hvalue
  have habovekey : above.key? parentKey = some v.toJson.render := by
    rw [Row.key?, habove, Option.bind_some, hkey]
  have hbelowkey : below.key? c.name = keyOf (cell below).toJson := by rw [Row.key?, hget, Option.bind_some]
  rw [hfilter, Option.any_some, Row.matches_eq, habovekey, hbelowkey, Option.any_some, ← hkey, Bool.eq_iff_iff,
    decide_eq_true_eq, Sql.Literal.key_eq_iff htype hv hvalue]
  simp

/-- The constant that a row above asks with is its value. -/
theorem Sql.Literal.ofJson?_toJson_of_ne_null {t : FieldType} {w : Sql.Literal} (hw : w.HasType t)
    (hvalue : w.toJson ≠ .null) : ofJson? w.toJson = some w := by
  by_cases ht : t = .float
  · subst ht
    cases w with
    | float y =>
      rw [toJson, Json.ofFloat, if_pos (isFinite_of_toJson hvalue)]
      rfl
    | null => exact absurd rfl hvalue
    | _ => cases hw
  · exact ofJson?_toJson ht hw

/-- **Keys are faithful but for the zeros.** Two values of one type, the second not decoded as null, have the
same key exactly if they are equal in the database and not the two zeros, which only doubles have. Null has no
key. The constant that a row above asks with brings the rows whose value is equal to its own, and of these its
list has all that do not hold the other zero. -/
theorem keyOf_faithful {t : FieldType} {v w : Sql.Literal} (hv : v.HasType t) (hw : w.HasType t)
    (hvalue : w.toJson ≠ .null) :
    (keyOf v.toJson = keyOf w.toJson ↔ v.agrees w = true ∧ v.zeros w = false) ∧
    (v.zeros w = true → t = .float) ∧ keyOf .null = none ∧
    (∀ scope, ((Sql.Literal.ofJson? w.toJson).any fun constant =>
      Sql.evalIn scope v [.literal constant] == .bool true) = v.agrees w) ∧
    ∀ (fetch : Fetch) (c : OutputColumn) (batch : List Row) (cell : Row → Sql.Literal) (above : Row)
      (field parentKey : String) (components : List Component) (subs before after : List Groups),
      fetch.filter = some c →
      (∀ below ∈ batch, below.get? c.name = some (cell below).toJson ∧ (cell below).HasType t) →
      above.get? parentKey = some w.toJson →
      (Component.many field parentKey before.length fetch components).assemble above
          (before ++ [group (Statement.assembleAll ⟨fetch, components⟩ batch subs)] ++ after)
        = (field, .arr ((batch.filter fun below => (cell below).agrees w && !(cell below).zeros w).map
            fun below => assemble components below subs)) := by
  refine ⟨Sql.Literal.key_eq_iff hv hw hvalue, ?_, rfl, ?_, ?_⟩
  · intro hzeros
    cases v <;> cases w <;> cases t <;> simp_all [Sql.Literal.zeros, Sql.Literal.HasType]
  · intro scope
    have hin := Sql.evalIn_literals_iff scope v [w]
    rw [Sql.Literal.ofJson?_toJson_of_ne_null hw hvalue, Option.any_some, Bool.eq_iff_iff, beq_iff_eq]
    simpa using hin
  · intro fetch c batch cell above field parentKey components subs before after hfilter hcell habove
    rw [Component.assemble_many rfl, group_of_key, Fetch.matching_eq hfilter hcell hw hvalue habove]

/-- Half and minus a half. -/
def halves : Sql.Literal × Sql.Literal :=
  (.float ⟨false, 0x3FE0000000000000, by decide⟩, .float ⟨true, 0x3FE0000000000000, by decide⟩)

theorem keyOf_faithful_halves : halves.1.HasType .float ∧ halves.2.HasType .float ∧ halves.2.toJson ≠ .null ∧
    keyOf halves.1.toJson ≠ keyOf halves.2.toJson := by
  have hfirst : halves.1.HasType .float := trivial
  have hsecond : halves.2.HasType .float := trivial
  have hvalue : halves.2.toJson ≠ .null := by
    rw [halves, Sql.Literal.toJson, Json.ofFloat, if_pos (by decide)]
    simp
  refine ⟨hfirst, hsecond, hvalue, fun heq => ?_⟩
  have hagrees := ((keyOf_faithful hfirst hsecond hvalue).1.mp heq).1
  revert hagrees
  decide +kernel

/-- The statement for rows that refer to a double. -/
def doubleFetch : Fetch where
  namespaceName := some "public"
  table := "b"
  aliasName := "t1"
  columns := [⟨"t1", "a", .float⟩, ⟨"t1", "id", .int⟩]
  joins := []
  filter := some ⟨"t1", "a", .float⟩
  orderBy := some "id"
  subFetches := 0

/-- The two zeros are equal in the database and have two keys, so a row below that holds the one is brought for
a row above that holds the other, and is not in its list. -/
theorem keyOf_zeros :
    (Sql.Literal.float Binary64.zero.neg).HasType .float ∧ (Sql.Literal.float Binary64.zero).HasType .float ∧
    (Sql.Literal.float Binary64.zero.neg).agrees (.float Binary64.zero) = true ∧
    keyOf (Sql.Literal.float Binary64.zero.neg).toJson = some "-0.0" ∧
    keyOf (Sql.Literal.float Binary64.zero).toJson = some "0.0" ∧
    (Component.many "b_on_a" "t0_id" 0 doubleFetch [.row "id" "t1_id"]).assemble [("t0_id", .float Binary64.zero)]
        [group (Statement.assembleAll ⟨doubleFetch, [.row "id" "t1_id"]⟩
          [[("t1_a", .float Binary64.zero.neg), ("t1_id", .int 1)]] [])]
      = ("b_on_a", .arr []) := by
  refine ⟨trivial, trivial, by decide +kernel, by decide +kernel, by decide +kernel, ?_⟩
  rfl

end NestedRows
