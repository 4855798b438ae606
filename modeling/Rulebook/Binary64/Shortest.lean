import Rulebook.Numeral

/-!
# Shortest decimal text

A binary64 number is written with the fewest digits that read back as the same
number, and of the shortest texts with the one nearest to it. Whether digits
read back is decided by reading them, in exact arithmetic. Where the point goes
and when a power of ten is written is a layout, which the module that writes the
output chooses.
-/

namespace Rulebook

/-- A decimal number: a whole number times a power of ten. -/
structure Decimal where
  /-- The digits, as a whole number. -/
  digits : Nat
  /-- The power of ten that the last digit counts. -/
  exponent : Int
deriving DecidableEq, Repr

namespace Binary64

/-- The power of ten that the leading digit of a positive number counts. Scaling
by `10 ^ 340` makes every positive binary64 number at least one, so that the
length of the whole part tells it. -/
def leadingExponent (units : Nat) : Int :=
  (decimalLength (units * tenPower 340 / one) : Int) - 341

/-- The decimal numbers in reach of `units` when the last digit counts the given
power of ten: the nearest one that is not above. The next one is above it by one. -/
def gridBelow (units : Nat) (exponent : Int) : Nat :=
  if 0 ≤ exponent then units / (one * tenPower exponent.toNat)
  else units * tenPower (-exponent).toNat / one

/-- On which side of the middle between a decimal number and the next one on its
grid the number lies. -/
def sideOfMiddle (units : Nat) (decimal : Decimal) : Ordering :=
  if 0 ≤ decimal.exponent then
    compare (2 * units) ((2 * decimal.digits + 1) * one * tenPower decimal.exponent.toNat)
  else
    compare (2 * units * tenPower (-decimal.exponent).toNat) ((2 * decimal.digits + 1) * one)

/-- Whether a decimal number reads back as these units. -/
def readsBack (units : Nat) (decimal : Decimal) : Bool :=
  ofDecimal decimal.digits decimal.exponent == units

/-- The decimal number with this many digits that reads back as `units`, if there
is one; of two, the nearer one, and the even one from the middle. -/
def withDigits? (units : Nat) (count : Nat) : Option Decimal :=
  let exponent := leadingExponent units - (count - 1)
  let below : Decimal := ⟨gridBelow units exponent, exponent⟩
  let above : Decimal := ⟨below.digits + 1, exponent⟩
  match readsBack units below, readsBack units above with
  | true, true =>
    match sideOfMiddle units below with
    | .lt => some below
    | .gt => some above
    | .eq => some (if below.digits % 2 = 0 then below else above)
  | true, false => some below
  | false, true => some above
  | false, false => none

/-- The shortest decimal number that reads back. Seventeen digits always do, so
the search stops there. -/
def shortest (units : Nat) : Decimal :=
  if units = 0 then ⟨0, 0⟩
  else
    match (List.range 17).findSome? fun i => withDigits? units (i + 1) with
    | some decimal => decimal
    | none => ⟨gridBelow units (leadingExponent units - 16), leadingExponent units - 16⟩

/-- How digits become text. -/
structure Layout where
  /-- Whether a number whose leading digit counts this power of ten is written
  without a power of ten. -/
  positional : Int → Bool

namespace Layout

/-- Digits around a point, with at least one digit on both sides. -/
def point (digits : List Char) (leading : Int) : List Char :=
  if leading < 0 then
    '0' :: '.' :: (List.replicate ((-leading).toNat - 1) '0' ++ digits)
  else
    let size := leading.toNat + 1
    let whole := digits.take size ++ List.replicate (size - digits.length) '0'
    let fraction := digits.drop size
    whole ++ '.' :: (if fraction.isEmpty then ['0'] else fraction)

/-- One digit, the others behind a point if there are any, and a signed power of
ten. -/
def power (digits : List Char) (leading : Int) : List Char :=
  let fraction := digits.drop 1
  digits.take 1 ++ (if fraction.isEmpty then [] else '.' :: fraction) ++
    'e' :: (if leading < 0 then '-' else '+') :: Nat.toDigits 10 leading.natAbs

/-- The text of a magnitude. -/
def magnitude (layout : Layout) (units : Nat) : List Char :=
  let decimal := shortest units
  let digits := Nat.toDigits 10 decimal.digits
  let leading := decimal.exponent + digits.length - 1
  let significant := match (digits.reverse.dropWhile (· = '0')).reverse with
    | [] => ['0']
    | kept => kept
  if layout.positional leading then point significant leading
  else power significant leading

/-- The text of a number; minus zero keeps its sign. -/
def text (layout : Layout) (x : Binary64) : String :=
  String.ofList ((if x.negative then ['-'] else []) ++ layout.magnitude x.units)

end Layout

end Binary64

end Rulebook
