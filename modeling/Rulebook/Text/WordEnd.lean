import Rulebook.Text.Ranges
import Rulebook.Text.WordEnd.Table

/-!
# Where a word ends

A letter ends a word when a letter with case stands before it and none stands
behind it, marks and the like being passed over on both sides.
-/

namespace Rulebook.Text

/-- Whether a character is a letter with case. -/
def isCased (c : Char) : Bool := inRanges casedRanges c.toNat

/-- Whether a character is passed over in the search for a neighbouring letter. -/
def isCaseIgnorable (c : Char) : Bool := inRanges caseIgnorableRanges c.toNat

/-- Whether the nearest character that is not passed over is a letter with case. -/
def nextIsCased (chars : List Char) : Bool :=
  match chars.dropWhile isCaseIgnorable with
  | [] => false
  | c :: _ => isCased c

/-- Whether a letter ends a word, given the characters before it, the nearest
one first, and the characters behind it. -/
def endsWord (before after : List Char) : Bool := nextIsCased before && !nextIsCased after

end Rulebook.Text
