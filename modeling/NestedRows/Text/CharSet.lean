/-!
# Sets of characters

The standard gives a property of characters as a long list of ranges. A `CharSet` keeps the code
points at which membership changes: the first is the first member, the second is the first
non-member after it, and so on.
-/

namespace NestedRows

/-- A set of characters, given by the increasing code points at which membership changes. -/
structure CharSet where
  changes : List Nat

namespace CharSet

/-- Membership of `c` behind the changes that lie at or below it. -/
def memberAfter (c : Nat) : List Nat → Bool → Bool
  | [], inside => inside
  | change :: rest, inside => if c < change then inside else memberAfter c rest (!inside)

/-- Whether `c` is in the set. -/
def contains (s : CharSet) (c : Char) : Bool := memberAfter c.toNat s.changes false

end CharSet

end NestedRows
