import NestedRows.Proofs.Text.Split
import NestedRows.Schema.QualifiedName
import Mathlib.Data.List.Basic
/-!
# Which texts name a column

A table and a column make a name exactly if both are non-empty and without the separator. So the written
name can be cut into its parts again, and a text that can be cut in this way is the text of one name only
(`QualifiedName.parse_eq_ok_iff`).
-/

namespace NestedRows.QualifiedName

theorem ext_parts {m n : QualifiedName} (htable : m.table = n.table) (hcolumn : m.column = n.column) :
    m = n := by
  cases m
  cases n
  simp_all

theorem partError?_eq_none_iff {table column part : String} :
    partError? table column part = none ↔ isNamePart part = true := by
  refine ⟨isNamePart_of_partError?, fun h => ?_⟩
  rw [isNamePart, Bool.and_eq_true, Bool.not_eq_true', Bool.not_eq_true'] at h
  rw [partError?, h.1, h.2]
  rfl

theorem isNamePart_table (n : QualifiedName) : isNamePart n.table = true :=
  (Bool.and_eq_true .. ▸ n.valid).1

theorem isNamePart_column (n : QualifiedName) : isNamePart n.column = true :=
  (Bool.and_eq_true .. ▸ n.valid).2

theorem new_eq_ok_iff {table column : String} {n : QualifiedName} :
    new table column = .ok n ↔ n.table = table ∧ n.column = column := by
  rw [new]
  constructor
  · intro h
    split at h
    · cases h
    · split at h
      · cases h
      · obtain rfl := Except.ok.inj h
        exact ⟨rfl, rfl⟩
  · rintro ⟨rfl, rfl⟩
    split
    · next e he =>
      rw [partError?_eq_none_iff.mpr n.isNamePart_table] at he
      cases he
    · split
      · next e he =>
        rw [partError?_eq_none_iff.mpr n.isNamePart_column] at he
        cases he
      · rfl

theorem exists_new_iff {table column : String} :
    (∃ n : QualifiedName, n.table = table ∧ n.column = column) ↔
      isNamePart table = true ∧ isNamePart column = true := by
  constructor
  · rintro ⟨n, rfl, rfl⟩
    exact ⟨n.isNamePart_table, n.isNamePart_column⟩
  · rintro ⟨htable, hcolumn⟩
    exact ⟨⟨table, column, by rw [htable, hcolumn]; rfl⟩, rfl, rfl⟩

theorem isNamePart_iff {part : String} : isNamePart part = true ↔ part ≠ "" ∧ '/' ∉ part.toList := by
  rw [isNamePart, Bool.and_eq_true, Bool.not_eq_true', Bool.not_eq_true', List.isEmpty_eq_false_iff,
    ne_eq, String.toList_eq_nil_iff, List.contains_eq_mem, decide_eq_false_iff_not]

theorem separator_notMem {part : String} (h : isNamePart part = true) : '/' ∉ part.toList :=
  (isNamePart_iff.mp h).2

/-- Without the separator, a part can be refused for being empty only. -/
theorem eq_emptyPart_of_partError? {table column part : String} {e : NameError} (hsign : '/' ∉ part.toList)
    (h : partError? table column part = some e) : e = .emptyPart table column := by
  have hcontains : part.toList.contains '/' = false := by simpa using hsign
  rw [partError?, hcontains] at h
  split at h
  · exact (Option.some.inj h).symm
  · cases h

theorem partError?_of_new_error {table column : String} {e : NameError} (h : new table column = .error e) :
    partError? table column table = some e ∨ partError? table column column = some e := by
  rw [new] at h
  split at h
  case h_1 e' he =>
    obtain rfl := Except.error.inj h
    exact .inl he
  case h_2 =>
    split at h
    case h_1 e' he =>
      obtain rfl := Except.error.inj h
      exact .inr he
    case h_2 => cases h

theorem toList_joined (table column : String) :
    (table ++ "/" ++ column).toList = table.toList ++ '/' :: column.toList := by
  simp

theorem toList_toText (n : QualifiedName) : n.toText.toList = n.table.toList ++ '/' :: n.column.toList :=
  toList_joined n.table n.column

/-! ### Reading a written name

How often the separator stands decides whether the two parts of a text are looked at (`parse_joined`,
`parse_of_count_ne_one`).
-/

theorem parse_joined {table column : String} (htable : '/' ∉ table.toList) (hcolumn : '/' ∉ column.toList) :
    parse (table ++ "/" ++ column) = new table column := by
  rw [parse, toList_joined, Text.splitAt_append_cons htable, Text.splitAt_of_notMem hcolumn]
  simp only [String.ofList_toList]

theorem parse_of_count_ne_one {s : String} (h : s.toList.count '/' ≠ 1) :
    parse s = .error (.notTwoParts s) := by
  rw [parse]
  split
  case h_1 table column hparts =>
    have hlength := Text.length_splitAt '/' s.toList
    rw [hparts, List.length_cons, List.length_singleton] at hlength
    omega
  case h_2 => rfl

theorem exists_joined_of_count {s : String} (h : s.toList.count '/' = 1) :
    ∃ table column : String, '/' ∉ table.toList ∧ '/' ∉ column.toList ∧ s = table ++ "/" ++ column := by
  obtain ⟨before, after, hbefore, hafter, hs⟩ := Text.exists_parts_of_count_eq_one h
  refine ⟨String.ofList before, String.ofList after, by simpa using hbefore, by simpa using hafter, ?_⟩
  rw [← String.toList_inj, toList_joined, String.toList_ofList, String.toList_ofList, hs]

theorem parse_toText (n : QualifiedName) : parse n.toText = .ok n := by
  rw [toText, parse_joined (separator_notMem n.isNamePart_table) (separator_notMem n.isNamePart_column)]
  exact new_eq_ok_iff.mpr ⟨rfl, rfl⟩

theorem parse_eq_ok_iff {s : String} {n : QualifiedName} : parse s = .ok n ↔ n.toText = s := by
  refine ⟨fun h => ?_, fun h => h ▸ parse_toText n⟩
  by_cases hcount : s.toList.count '/' = 1
  · obtain ⟨table, column, htable, hcolumn, rfl⟩ := exists_joined_of_count hcount
    rw [parse_joined htable hcolumn] at h
    obtain ⟨rfl, rfl⟩ := new_eq_ok_iff.mp h
    rfl
  · rw [parse_of_count_ne_one hcount] at h
    cases h

theorem toText_injective : Function.Injective QualifiedName.toText := by
  intro m n h
  have hparsed := parse_toText m
  rw [h, parse_toText] at hparsed
  exact (Except.ok.inj hparsed).symm

/-- A text in which the separator stands once, with some text on both sides of it. -/
def WritesName (s : String) : Prop :=
  s.toList.count '/' = 1 ∧ ∃ before after : String, before ≠ "" ∧ after ≠ "" ∧ s = before ++ "/" ++ after

theorem writesName_toText (n : QualifiedName) : WritesName n.toText := by
  obtain ⟨htable, htableSign⟩ := isNamePart_iff.mp n.isNamePart_table
  obtain ⟨hcolumn, hcolumnSign⟩ := isNamePart_iff.mp n.isNamePart_column
  refine ⟨?_, n.table, n.column, htable, hcolumn, rfl⟩
  rw [toList_toText, List.count_append, List.count_cons_self, List.count_eq_zero_of_not_mem htableSign,
    List.count_eq_zero_of_not_mem hcolumnSign]

/-- The two parts of a text that writes a name make a name. -/
theorem WritesName.exists_toText {s : String} (h : WritesName s) : ∃ n : QualifiedName, n.toText = s := by
  obtain ⟨hcount, before, after, hbefore, hafter, rfl⟩ := h
  rw [toList_joined, List.count_append, List.count_cons_self] at hcount
  have hbeforeSign : '/' ∉ before.toList := List.count_eq_zero.mp (by omega)
  have hafterSign : '/' ∉ after.toList := List.count_eq_zero.mp (by omega)
  obtain ⟨n, rfl, rfl⟩ := exists_new_iff.mpr
    ⟨isNamePart_iff.mpr ⟨hbefore, hbeforeSign⟩, isNamePart_iff.mpr ⟨hafter, hafterSign⟩⟩
  exact ⟨n, rfl⟩

/-- The text of a name can be cut into two parts in no other place. -/
theorem toText_eq_joined_iff {n : QualifiedName} {table column : String} :
    n.toText = table ++ "/" ++ column ↔ n.table = table ∧ n.column = column := by
  rw [← String.toList_inj, toList_toText, toList_joined,
    List.append_cons_inj_of_notMem (separator_notMem n.isNamePart_table) (separator_notMem n.isNamePart_column),
    String.toList_inj, String.toList_inj]
  simp only [true_and]

/-- A text that names no column is quoted in what is said about it. -/
theorem message_of_parse_error {s : String} {e : NameError} (h : parse s = .error e) :
    e.message = if s.toList.count '/' = 1 then "empty part in '" ++ s ++ "'"
      else "expected exactly one '/' in '" ++ s ++ "'" := by
  by_cases hcount : s.toList.count '/' = 1
  · obtain ⟨table, column, htable, hcolumn, rfl⟩ := exists_joined_of_count hcount
    rw [parse_joined htable hcolumn] at h
    obtain rfl : e = .emptyPart table column :=
      (partError?_of_new_error h).elim (eq_emptyPart_of_partError? htable) (eq_emptyPart_of_partError? hcolumn)
    refine Eq.trans ?_ (if_pos hcount).symm
    change "empty part in '" ++ table ++ "/" ++ column ++ "'" = _
    simp only [String.append_assoc]
  · rw [parse_of_count_ne_one hcount] at h
    obtain rfl := Except.error.inj h
    exact (if_neg hcount).symm

/-- **Names and the texts that write them are in bijection.** A text can be read exactly if it has one separator
and something on both sides of it, and it is the text of the name that is read. Two parts make a name
exactly if none is empty or holds the separator, which is when their joined text can be read, as that name. -/
theorem parse_exact :
    (∀ s, (∃ n, parse s = .ok n) ↔ WritesName s) ∧
    (∀ s n, parse s = .ok n ↔ n.toText = s) ∧
    (∀ table column, (∃ n, new table column = .ok n) ↔
      (table ≠ "" ∧ '/' ∉ table.toList) ∧ (column ≠ "" ∧ '/' ∉ column.toList)) ∧
    (∀ table column n, new table column = .ok n ↔ n.table = table ∧ n.column = column) ∧
    (∀ table column n, new table column = .ok n ↔ parse (table ++ "/" ++ column) = .ok n) ∧
    ∀ m n : QualifiedName, m.toText = n.toText ↔ m = n := by
  refine ⟨?_, fun _ _ => parse_eq_ok_iff, ?_, fun _ _ _ => new_eq_ok_iff, ?_, fun _ _ => toText_injective.eq_iff⟩
  · intro s
    simp only [parse_eq_ok_iff]
    constructor
    · rintro ⟨n, rfl⟩
      exact n.writesName_toText
    · exact WritesName.exists_toText
  · intro table column
    simp only [new_eq_ok_iff]
    rw [exists_new_iff, isNamePart_iff, isNamePart_iff]
  · intro table column n
    rw [new_eq_ok_iff, parse_eq_ok_iff, toText_eq_joined_iff]

end NestedRows.QualifiedName
