import Rulebook.Comparer
import Rulebook.Numeral
import Rulebook.Text.Blank
import Rulebook.Text.Split

/-!
# Dotted versions

A version is one to four components between points, each a decimal number of 32
bits. Blanks around it do not count. Versions are ordered by their components
from the left, and a missing component counts as zero.
-/

namespace Rulebook.Version

/-- Why a text is not a version. -/
inductive Fault where
  /-- A component is empty or has a character that is no digit. -/
  | notDecimal
  /-- A component does not fit into 32 bits. -/
  | tooLarge
  /-- There are more than four components. -/
  | tooLong
deriving DecidableEq, Repr

/-- The wording of a fault. -/
def Fault.message : Fault → String
  | .notDecimal => "components must be decimal digits"
  | .tooLarge => "number too large to fit in target type"
  | .tooLong => "more than four components"

/-- The number of a component. -/
def component (digits : List Char) : Except Fault Nat :=
  if digits.isEmpty || !digits.all Char.isDigit then .error .notDecimal
  else
    let n := digitsValue digits
    if n < UInt32.size then .ok n else .error .tooLarge

/-- The components of a text. The first bad component is reported, and the count
only when every component is good. -/
def components (text : List Char) : Except Fault (List Nat) := do
  let parts ← (Text.splitAt '.' (Text.trimBlank text)).mapM component
  if 4 < parts.length then .error .tooLong else .ok parts

/-- The order of components, the missing ones being zero. -/
def order : List Nat → List Nat → Ordering
  | [], bs => if bs.all (· == 0) then .eq else .lt
  | a :: as, bs => (compare a (bs.headD 0)).then (order as bs.tail)

/-- The components of an operand, a fault being reported with the whole text. -/
def operand (text : String) : Except ComparisonError (List Nat) :=
  (components text.toList).mapError fun fault => ⟨"version", text, fault.message⟩

/-- The comparer named `version`; of two bad operands the left one is reported. -/
def comparer : Comparer where
  name := "version"
  compare := fun left right => do
    let a ← operand left
    let b ← operand right
    return order a b

end Rulebook.Version

namespace Rulebook.Registry

/-- The comparers that every document can use. -/
def builtin : Registry := Registry.empty.register Version.comparer

end Rulebook.Registry
