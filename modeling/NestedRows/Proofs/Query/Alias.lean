import NestedRows.Query.Statement
import NestedRows.Proofs.Json.Text
/-!
# Names of tables and columns in a statement

An alias is a letter and a number, so it has no underscore, and the first underscore in the name of a
selected column ends the alias. Hence two columns of numbered tables have one name only if they are
the same column of the same table, whatever the columns are called.
-/

namespace NestedRows

theorem toList_aliasOf (n : Nat) : (aliasOf n).toList = 't' :: Nat.toDigits 10 n := by
  rw [aliasOf, String.toList_append, Nat.toString_eq_repr, Nat.toList_repr]
  rfl

theorem aliasOf_injective : Function.Injective aliasOf := by
  intro m n h
  have hlist := congrArg String.toList h
  rw [toList_aliasOf, toList_aliasOf] at hlist
  exact toDigits_injective (List.cons.inj hlist).2

theorem OutputColumn.toList_name {c : OutputColumn} {n : Nat} (hc : c.aliasName = aliasOf n) :
    c.name.toList = 't' :: (Nat.toDigits 10 n ++ '_' :: c.column.toList) := by
  rw [OutputColumn.name, hc, String.toList_append, String.toList_append, toList_aliasOf]
  simp

theorem OutputColumn.eq_of_name_eq {c d : OutputColumn} {m n : Nat} (hc : c.aliasName = aliasOf m)
    (hd : d.aliasName = aliasOf n) (h : c.name = d.name) :
    c.aliasName = d.aliasName ∧ c.column = d.column := by
  have hlist := congrArg String.toList h
  rw [toList_name hc, toList_name hd] at hlist
  have htail := (List.cons.inj hlist).2
  have hdigits : ∀ (k : Nat) (rest : List Char),
      (Nat.toDigits 10 k ++ '_' :: rest).takeWhile Char.isDigit = Nat.toDigits 10 k ∧
        (Nat.toDigits 10 k ++ '_' :: rest).dropWhile Char.isDigit = '_' :: rest := by
    intro k rest
    have hall : ∀ a ∈ Nat.toDigits 10 k, a.isDigit = true :=
      fun a ha => Nat.isDigit_of_mem_toDigits (by decide) (by decide) ha
    rw [List.takeWhile_append_of_pos hall, List.dropWhile_append_of_pos hall]
    simp
  have hnumber := congrArg (List.takeWhile Char.isDigit) htail
  have hcolumn := congrArg (List.dropWhile Char.isDigit) htail
  rw [(hdigits m _).1, (hdigits n _).1] at hnumber
  rw [(hdigits m _).2, (hdigits n _).2] at hcolumn
  exact ⟨by rw [hc, hd, toDigits_injective hnumber], String.ext (List.cons.inj hcolumn).2⟩

end NestedRows
