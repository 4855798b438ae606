import Rulebook.Text.WordEnd
import Rulebook.Text.LowerCase.Table

/-!
# Lower case

Names and texts are compared in lower case. Every character has a lower-case form
of its own, with two exceptions: the capital I with a dot above becomes two
characters, and the capital sigma becomes a final sigma where it ends a word.
-/

namespace Rulebook.Text

/-- The lower-case form of a character, away from the end of a word. -/
def lowerChar (c : Char) : List Char :=
  if c = '\u0130' then ['i', '\u0307'] else [Char.ofNat (lowerCode lowerRows c.toNat)]

/-- The lower-case form of the characters that follow `before`, which holds the
characters already passed, the last one first. -/
def lowerChars (before : List Char) : List Char → List Char
  | [] => []
  | c :: rest =>
    (if c = '\u03A3' ∧ endsWord before rest then ['\u03C2'] else lowerChar c) ++
      lowerChars (c :: before) rest

/-- A text in lower case. -/
def lowerCase (text : String) : String := String.ofList (lowerChars [] text.toList)

/-- Whether two texts differ at most in the case of ASCII letters. -/
def sameAsciiLetters (a b : String) : Bool :=
  a.toList.map Char.toLower == b.toList.map Char.toLower

end Rulebook.Text
