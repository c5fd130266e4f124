/-!
# Texts in parts

A text is cut at every place where a separator stands. There is one part more than separators, and
parts may be empty.
-/

namespace NestedRows.Text

def splitAt (separator : Char) : List Char → List (List Char)
  | [] => [[]]
  | c :: rest =>
    if c = separator then [] :: splitAt separator rest
    else
      match splitAt separator rest with
      | part :: parts => (c :: part) :: parts
      | [] => [[c]]

end NestedRows.Text
