/-!
# Binary64 numbers, counted in their smallest spacing

Every finite binary64 number is a whole number of units of `2 ^ -1074`, the
spacing of the smallest ones, so a sign and a natural number describe it
exactly. Sums of units are compared as integers, and products and quotients are
rounded from the exact rational result: to the nearest number with at most 53
significant bits, a tie going to the even one. No machine floating point is
involved.
-/

namespace Rulebook

/-- A power of two. -/
def twoPower (exponent : Nat) : Nat := Nat.pow 2 exponent

/-- A power of ten. -/
def tenPower (exponent : Nat) : Nat := Nat.pow 10 exponent

/-- A finite binary64 number, as a sign and a magnitude in units of `2 ^ -1074`. -/
structure Binary64 where
  /-- Whether the sign is minus; zero has both signs. -/
  negative : Bool
  /-- The magnitude in units of `2 ^ -1074`. -/
  units : Nat
deriving DecidableEq, Repr, Inhabited

namespace Binary64

/-- The units of one. -/
def one : Nat := twoPower 1074

/-- The units of `2 ^ 1024`, the least power of two that is out of range. -/
def limit : Nat := twoPower 2098

/-- The quotient rounded to the nearest whole number, a half to the even one. -/
def divideEven (numerator denominator : Nat) : Nat :=
  let quotient := numerator / denominator
  let remainder := numerator % denominator
  if 2 * remainder < denominator then quotient
  else if 2 * remainder = denominator then quotient + quotient % 2
  else quotient + 1

/-- The number of low bits that do not fit into 53 significant bits. -/
def excessBits (magnitude : Nat) : Nat := magnitude.log2 + 1 - 53

/-- The units nearest to the quotient of units: with 53 significant bits, or
with the spacing of one unit where that is coarser. -/
def round (numerator denominator : Nat) : Nat :=
  let spacing := twoPower (excessBits (numerator / denominator))
  divideEven numerator (denominator * spacing) * spacing

/-- The number with this sign and magnitude, unless the magnitude is out of
range. -/
def ofUnits? (negative : Bool) (units : Nat) : Option Binary64 :=
  if units < limit then some ⟨negative, units⟩ else none

/-- Zero with a sign. -/
def zero (negative : Bool) : Binary64 := ⟨negative, 0⟩

/-- A whole number rounded to the nearest binary64 number. -/
def ofNat (negative : Bool) (n : Nat) : Binary64 := ⟨negative, round (n * one) 1⟩

/-- The number with its sign, in units. -/
def signedUnits (x : Binary64) : Int :=
  if x.negative then -(x.units : Int) else x.units

/-- The number with the sign turned. -/
def neg (x : Binary64) : Binary64 := ⟨!x.negative, x.units⟩

/-- The rounded product. It is in range whenever a factor is at most one and the
other is in range. -/
def mul (x y : Binary64) : Binary64 :=
  ⟨x.negative != y.negative, round (x.units * y.units) one⟩

/-- The rounded product, unless it is out of range. -/
def mul? (x y : Binary64) : Option Binary64 :=
  ofUnits? (mul x y).negative (mul x y).units

/-- The rounded quotient. It is in range whenever the divisor is at least one. -/
def div (x y : Binary64) : Binary64 :=
  ⟨x.negative != y.negative, round (x.units * one) y.units⟩

/-- Numeric order: the two zeros are equal. -/
def order (x y : Binary64) : Ordering := compare x.signedUnits y.signedUnits

/-- Numeric equality: the two zeros are equal. -/
def sameValue (x y : Binary64) : Bool := x.signedUnits == y.signedUnits

/-- The nearest whole number to the magnitude, a half going up. -/
def roundHalfUp (x : Binary64) : Nat := (2 * x.units + one) / (2 * one)

/-- The power of ten, rounded to the nearest binary64 number. -/
def ofTenPower (exponent : Nat) : Binary64 := ofNat false (tenPower exponent)

end Binary64

end Rulebook
