/-!
# Character classes as ranges

A class of characters is a list of ranges of character numbers in increasing
order, so that membership is decided by the first range that does not end before
the character.
-/

namespace Rulebook.Text

/-- Whether a number lies in one of the increasing ranges. -/
def inRanges : List (Nat × Nat) → Nat → Bool
  | [], _ => false
  | (first, last) :: rest, code =>
    if code < first then false else if code ≤ last then true else inRanges rest code

end Rulebook.Text
