import Rulebook.Binary64

/-!
# Numerals and the numbers they stand for

A numeral is a sign, digits, a fraction and a power of ten. Two grammars use it:
JSON text, whose numerals are read elsewhere, and free text, where a number may
also be written `inf` or `nan` and is read to the nearest binary64 number,
however many digits it has.
-/

namespace Rulebook

/-- The parts of a written number. -/
structure Numeral where
  /-- The sign as written, if there is one. -/
  sign : Option Char
  /-- The digits before the point. -/
  whole : List Char
  /-- The digits after the point, if there is a point. -/
  fraction : Option (List Char)
  /-- The power of ten after `e`, if there is one. -/
  exponent : Option Int
deriving Repr, DecidableEq

/-- The number whose decimal digits these are. -/
def digitsValue (digits : List Char) : Nat :=
  digits.foldl (fun n c => 10 * n + (c.toNat - 48)) 0

namespace Numeral

/-- The text behind an optional sign, and the sign. -/
def splitSign : List Char → Option Char × List Char
  | '+' :: rest => (some '+', rest)
  | '-' :: rest => (some '-', rest)
  | chars => (none, chars)

/-- The power of ten written at the end of a numeral: nothing, or `e` and a whole
number of at least one digit. -/
def readExponent : List Char → Option (Option Int)
  | [] => some none
  | mark :: rest =>
    if mark = 'e' ∨ mark = 'E' then
      let (sign, digits) := splitSign rest
      if digits.isEmpty || !digits.all Char.isDigit then none
      else
        let size : Int := digitsValue digits
        some (some (if sign = some '-' then -size else size))
    else none

/-- The text cut into the parts of a numeral. It is `none` for a text with
anything else in it or with no digits behind `e`; whether the other parts may be
empty is for the grammar that uses the numeral. -/
def ofChars? (chars : List Char) : Option Numeral :=
  let (sign, unsigned) := splitSign chars
  let whole := unsigned.takeWhile Char.isDigit
  match unsigned.dropWhile Char.isDigit with
  | '.' :: rest =>
    (readExponent (rest.dropWhile Char.isDigit)).map fun exponent =>
      ⟨sign, whole, some (rest.takeWhile Char.isDigit), exponent⟩
  | rest => (readExponent rest).map fun exponent => ⟨sign, whole, none, exponent⟩

/-- Whether the sign is minus. -/
def isNegative (numeral : Numeral) : Bool := numeral.sign == some '-'

/-- Whether there is no digit before or after the point. -/
def hasNoDigits (numeral : Numeral) : Bool :=
  numeral.whole.isEmpty && (numeral.fraction.getD []).isEmpty

end Numeral

/-- A number as free text can name it: a binary64 number, or one of the values
that binary64 adds to them. -/
inductive Quantity where
  /-- Not a number; it compares with nothing. -/
  | nan
  /-- Beyond every finite number, above or below. -/
  | infinite (negative : Bool)
  /-- A finite number. -/
  | finite (x : Binary64)
deriving DecidableEq, Repr

namespace Binary64

/-- The units nearest to `digits` times a power of ten. -/
def ofDecimal (digits : Nat) (exponent : Int) : Nat :=
  if 0 ≤ exponent then round (digits * tenPower exponent.toNat * one) 1
  else round (digits * one) (tenPower (-exponent).toNat)

/-- How many decimal digits a number has; zero has one. -/
def decimalLength (n : Nat) : Nat := (Nat.toDigits 10 n).length

end Binary64

namespace Quantity

/-- The number nearest to a numeral. Numbers from `10 ^ 310` on are infinite and
numbers below `10 ^ -330` are zero without being computed: both lie far beyond
the range of binary64. -/
def ofNumeral (numeral : Numeral) : Quantity :=
  let fraction := numeral.fraction.getD []
  let digits := digitsValue (numeral.whole ++ fraction)
  let exponent := numeral.exponent.getD 0 - fraction.length
  let size := Binary64.decimalLength digits + exponent
  if digits = 0 ∨ size < -330 then finite (Binary64.zero numeral.isNegative)
  else if 310 < size then infinite numeral.isNegative
  else
    match Binary64.ofUnits? numeral.isNegative (Binary64.ofDecimal digits exponent) with
    | some x => finite x
    | none => infinite numeral.isNegative

/-- The number named by a word behind an optional sign, whatever the case of its
letters: `inf`, `infinity` or `nan`. -/
def ofWord? (chars : List Char) : Option Quantity :=
  let (sign, word) := Numeral.splitSign chars
  let word := word.map Char.toLower
  if word = "inf".toList ∨ word = "infinity".toList then some (infinite (sign == some '-'))
  else if word = "nan".toList then some nan
  else none

/-- The number that a text writes. A sign may stand in front, digits may be
missing on one side of the point but not on both, and nothing else may follow. -/
def ofChars? (chars : List Char) : Option Quantity :=
  match Numeral.ofChars? chars with
  | some numeral => if numeral.hasNoDigits then none else some (ofNumeral numeral)
  | none => ofWord? chars

/-- The order of a quantity and a finite number; there is none for `nan`. -/
def order? : Quantity → Binary64 → Option Ordering
  | nan, _ => none
  | infinite true, _ => some .lt
  | infinite false, _ => some .gt
  | finite x, y => some (x.order y)

end Quantity

end Rulebook
