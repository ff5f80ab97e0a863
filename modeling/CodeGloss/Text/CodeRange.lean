/-!
# Sets of code points

A character property is stored as an ascending list of closed code point
ranges. Membership walks the list and stops at the first range that starts
beyond the code point.
-/

namespace CodeGloss.Text

/-- Closed ranges of code points, in ascending order. -/
abbrev CodeRanges := List (Nat × Nat)

namespace CodeRanges

def contains : CodeRanges → Nat → Bool
  | [], _ => false
  | (first, last) :: rest, n =>
      if n < first then false else n ≤ last || contains rest n

theorem contains_cons (first last : Nat) (rest : CodeRanges) (n : Nat) :
    contains ((first, last) :: rest) n =
      if n < first then false else n ≤ last || contains rest n :=
  rfl

end CodeRanges

end CodeGloss.Text
