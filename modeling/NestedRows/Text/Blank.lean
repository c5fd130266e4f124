import NestedRows.Text.CharSet
/-!
# White space

Blanks are the characters of Unicode's property `White_Space`. Texts are trimmed of them at both
ends and split into words at them.
-/

namespace NestedRows.Text

/-- The characters of `White_Space`. -/
def blanks : CharSet := ⟨[
  9, 14, 32, 33, 133, 134, 160, 161, 5760, 5761, 8192, 8203, 8232, 8234, 8239, 8240, 8287, 8288,
  12288, 12289]⟩

/-- Whether `c` is white space. -/
def isBlank (c : Char) : Bool := blanks.contains c

def trimLeft (s : List Char) : List Char := s.dropWhile isBlank

def trim (s : List Char) : List Char := ((trimLeft s).reverse.dropWhile isBlank).reverse

/-- The first maximal run of characters that are not white space. -/
def firstWord? (s : List Char) : Option (List Char) :=
  match (trimLeft s).takeWhile (fun c => !isBlank c) with
  | [] => none
  | w => some w

end NestedRows.Text
