import NestedRows.Text.Blank
import NestedRows.Text.Identifier
/-!
# The characters of identifiers

What starts an identifier may also continue one, and neither is white space or a sign. The sets are
long tables, so inclusion is decided by one walk along the changes of both.
-/

namespace NestedRows

namespace CharSet

/-- Whether the members behind the changes `xs` are among those behind `ys`, where `a` and `b` say
which side of the sets the walk is on. A step takes the lower of the next two changes; `fuel` bounds
the steps. -/
def within : (fuel : Nat) → List Nat → Bool → List Nat → Bool → Bool
  | 0, _, _, _, _ => false
  | _ + 1, [], a, [], b => !a || b
  | fuel + 1, _ :: xs, a, [], b => (!a || b) && within fuel xs (!a) [] b
  | fuel + 1, [], a, _ :: ys, b => (!a || b) && within fuel [] a ys (!b)
  | fuel + 1, x :: xs, a, y :: ys, b =>
    (!a || b) &&
      if x < y then within fuel xs (!a) (y :: ys) b
      else if y < x then within fuel (x :: xs) a ys (!b)
      else within fuel xs (!a) ys (!b)

theorem memberAfter_of_within {fuel c : Nat} {xs ys : List Nat} {a b : Bool}
    (hwithin : within fuel xs a ys b = true) (hc : memberAfter c xs a = true) :
    memberAfter c ys b = true := by
  induction fuel, xs, a, ys, b using within.induct with
  | case1 => simp [within] at hwithin
  | case2 fuel a b => simp_all [within, memberAfter]
  | case3 fuel x xs a b ih =>
    simp only [within, Bool.and_eq_true] at hwithin
    by_cases hx : c < x
    · simp_all [memberAfter]
    · exact ih hwithin.2 (by simpa [memberAfter, hx] using hc)
  | case4 fuel a y ys b ih =>
    simp only [within, Bool.and_eq_true] at hwithin
    by_cases hy : c < y
    · simp_all [memberAfter]
    · simpa [memberAfter, hy] using ih hwithin.2 hc
  | case5 fuel x xs a y ys b ihx ihy ihxy =>
    simp only [within, Bool.and_eq_true] at hwithin
    obtain ⟨himp, hrest⟩ := hwithin
    rcases Nat.lt_trichotomy x y with hxy | rfl | hyx
    · rw [if_pos hxy] at hrest
      by_cases hx : c < x
      · have hy : c < y := Nat.lt_trans hx hxy
        simp_all [memberAfter]
      · exact ihx hrest (by simpa [memberAfter, hx] using hc)
    · rw [if_neg (Nat.lt_irrefl x), if_neg (Nat.lt_irrefl x)] at hrest
      by_cases hx : c < x
      · simp_all [memberAfter]
      · simpa [memberAfter, hx] using ihxy hrest (by simpa [memberAfter, hx] using hc)
    · rw [if_neg (Nat.lt_asymm hyx), if_pos hyx] at hrest
      by_cases hy : c < y
      · have hx : c < x := Nat.lt_trans hy hyx
        simp_all [memberAfter]
      · simpa [memberAfter, hy] using ihy hrest hc

theorem memberAfter_not (c : Nat) (xs : List Nat) (a : Bool) :
    memberAfter c xs (!a) = !memberAfter c xs a := by
  induction xs generalizing a with
  | nil => rfl
  | cons x xs ih =>
    by_cases hx : c < x
    · simp [memberAfter, hx]
    · simp [memberAfter, hx, ih]

end CharSet

namespace Text

theorem isIdentifierPart_of_isIdentifierStart {c : Char} (hc : isIdentifierStart c = true) :
    isIdentifierPart c = true := by
  rcases Bool.or_eq_true_iff.mp hc with hunderscore | hstart
  · obtain rfl : c = '_' := by simpa using hunderscore
    decide +kernel
  · have hwithin : CharSet.within 4000 identifierStarts.changes false
        identifierParts.changes false = true := by decide +kernel
    exact CharSet.memberAfter_of_within hwithin hstart

theorem isBlank_eq_false_of_isIdentifierPart {c : Char} (hc : isIdentifierPart c = true) :
    isBlank c = false := by
  have hwithin : CharSet.within 4000 identifierParts.changes false blanks.changes true = true := by
    decide +kernel
  have hother := CharSet.memberAfter_of_within hwithin hc
  rw [← Bool.not_false, CharSet.memberAfter_not] at hother
  simpa [isBlank, CharSet.contains] using hother

end Text

end NestedRows
