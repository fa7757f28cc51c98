/-!
# `AnswerDesk.Text.Interval`: characters in intervals

Sets of characters are written as closed intervals of code points. The tables of
properties of characters have this form, and so have the sets in a pattern.
-/

set_option autoImplicit false

namespace AnswerDesk.Text

/-- One of the intervals holds the character. -/
def inIntervals (intervals : List (Nat × Nat)) (c : Char) : Bool :=
  intervals.any fun (first, last) => first ≤ c.toNat && c.toNat ≤ last

end AnswerDesk.Text
