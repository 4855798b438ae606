import Rulebook.Binary64.Shortest

/-!
# Numbers of JSON documents

A number is of one of three kinds, which the way it is written decides: a
non-negative integer of 64 bits, a negative integer of 64 bits, or a binary64
number. A literal with a point or a power of ten, one that fits neither integer
kind, and `-0` are binary64 numbers.

A literal is read to binary64 in two roundings: its leading digits, as many as
fit into 64 bits, are rounded first, and the product or quotient with the power
of ten is rounded again. So a literal of many digits may be read to a neighbour
of the number nearest to it.
-/

namespace Rulebook

/-- A number of a JSON document. -/
inductive Number where
  /-- A non-negative integer. -/
  | natural (n : UInt64)
  /-- The integer `-n`; the reader makes these with `1 ≤ n ≤ 2 ^ 63`. -/
  | negative (n : UInt64)
  /-- A binary64 number. -/
  | float (x : Binary64)
deriving DecidableEq, Repr, Inhabited

namespace Number

/-- The nearest binary64 number. -/
def toBinary64 : Number → Binary64
  | natural n => Binary64.ofNat false n.toNat
  | negative n => Binary64.ofNat true n.toNat
  | float x => x

/-- Equality within a kind; numbers of two kinds differ. -/
def same : Number → Number → Bool
  | natural a, natural b => a == b
  | negative a, negative b => a == b
  | float x, float y => x.sameValue y
  | _, _ => false

/-- Numbers are written without a power of ten from `0.00001` to below
`10 ^ 16`. -/
def layout : Binary64.Layout := ⟨fun leading => -5 ≤ leading && leading < 16⟩

/-- The JSON text of a number. -/
def text : Number → String
  | natural n => toString n.toNat
  | negative n => "-" ++ toString n.toNat
  | float x => layout.text x

/-- The number of the digits that still fit into 64 bits behind `kept`, and the
digits from the first one on that does not. -/
def keepDigits (kept : Nat) : List Char → Nat × List Char
  | [] => (kept, [])
  | c :: rest =>
    let next := digitsValue [c] + 10 * kept
    if next < UInt64.size then keepDigits next rest else (kept, c :: rest)

/-- The binary64 number of a significand and a power of ten, unless it is out of
range. A power below `10 ^ -308` is divided by in two steps, the first by
`10 ^ 308`; below `10 ^ -616` nothing is left. -/
def scaled? (significand : Nat) (exponent : Int) : Option Binary64 :=
  let x := Binary64.ofNat false significand
  if significand = 0 then some (Binary64.zero false)
  else if 308 < exponent then none
  else if 0 ≤ exponent then x.mul? (Binary64.ofTenPower exponent.toNat)
  else if -308 ≤ exponent then some (x.div (Binary64.ofTenPower (-exponent).toNat))
  else if -616 ≤ exponent then
    some ((x.div (Binary64.ofTenPower 308)).div (Binary64.ofTenPower (-exponent - 308).toNat))
  else some (Binary64.zero false)

/-- The integer of a literal without point and power of ten. -/
def ofInteger? (isNegative : Bool) (digits : List Char) : Option Number :=
  let (kept, left) := keepDigits 0 digits
  if left.isEmpty then
    if !isNegative then some (natural (UInt64.ofNat kept))
    else if kept = 0 ∨ UInt64.size < 2 * kept then some (float (Binary64.ofNat true kept))
    else some (negative (UInt64.ofNat kept))
  else (scaled? kept left.length).map fun x => float (if isNegative then x.neg else x)

/-- The binary64 number of a literal with a point or a power of ten. Digits
before the point that are left out still count as powers of ten. -/
def ofDecimal? (isNegative : Bool) (whole fraction : List Char) (exponent : Int) :
    Option Number :=
  let (kept, wholeLeft) := keepDigits 0 whole
  let (kept, fractionLeft) := keepDigits kept fraction
  let shift : Int := wholeLeft.length + fractionLeft.length - fraction.length
  (scaled? kept (shift + exponent)).map fun x => float (if isNegative then x.neg else x)

/-- Whether a numeral has the form of a JSON number: no plus sign, no leading
zero before other digits, and digits on both sides of a point. -/
def wellFormed (numeral : Numeral) : Bool :=
  numeral.sign != some '+' && !numeral.whole.isEmpty &&
    (numeral.whole.head? != some '0' || numeral.whole.length == 1) &&
    numeral.fraction != some []

/-- The number that a JSON literal writes, if it is one and in range. -/
def ofChars? (chars : List Char) : Option Number :=
  match Numeral.ofChars? chars with
  | none => none
  | some numeral =>
    if !wellFormed numeral then none
    else
      match numeral.fraction, numeral.exponent with
      | none, none => ofInteger? numeral.isNegative numeral.whole
      | fraction, exponent =>
        ofDecimal? numeral.isNegative numeral.whole (fraction.getD []) (exponent.getD 0)

end Number

end Rulebook
