import Rulebook.Json
import Rulebook.Text.Blank
import Rulebook.Text.LowerCase

/-!
# Comparing a value with a literal

Without a comparer the literal decides how a value is read. A text is compared
with the text of any scalar, both in lower case and by code point. A number is
compared with a number or with a text that writes one. A truth value is compared
with a truth value or its name, false before true. Null equals null alone, and
arrays and objects equal only what has the same value.
-/

namespace Rulebook.Coercion

/-- The number that a value gives: a number itself, or a text that writes one
between blanks. -/
def quantity? : Json → Option Quantity
  | .number n => some (.finite n.toBinary64)
  | .string s => Quantity.ofChars? (Text.trimBlank s.toList)
  | _ => none

/-- The truth value that a value gives: itself, or a text that names it in
letters of either case. -/
def truth? : Json → Option Bool
  | .bool b => some b
  | .string s =>
    if Text.sameAsciiLetters s "true" then some true
    else if Text.sameAsciiLetters s "false" then some false
    else none
  | _ => none

/-- The order of a value and a literal, if the literal's kind allows to compare
them. -/
def order? (value literal : Json) : Option Ordering :=
  match literal with
  | .string s => value.text?.map fun text => compare (Text.lowerCase text) (Text.lowerCase s)
  | .number n => (quantity? value).bind fun quantity => quantity.order? n.toBinary64
  | .bool b => (truth? value).map fun truth => compare truth b
  | .null => match value with
    | .null => some .eq
    | _ => none
  | .array _ | .object _ => if value.same literal then some .eq else none

/-- Whether a value equals a literal. -/
def equal (value literal : Json) : Bool := order? value literal == some .eq

end Rulebook.Coercion
