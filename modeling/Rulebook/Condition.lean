import Rulebook.Coercion
import Rulebook.Comparer

/-!
# Conditions on one value

A condition is a test of the value of one property. Comparisons and membership
either coerce the value to the kind of the literal or leave the question to a
comparer, which may refuse a text and so make the test fail. Lists of conditions
are tried from the left, up to the first one that decides or fails.
-/

namespace Rulebook

/-- The six comparisons. -/
inductive Relation where
  /-- Equal. -/
  | eq
  /-- Not equal. -/
  | ne
  /-- Greater. -/
  | gt
  /-- Greater or equal. -/
  | ge
  /-- Less. -/
  | lt
  /-- Less or equal. -/
  | le
deriving DecidableEq, Repr

/-- Whether a comparison holds for values in this order. -/
def Relation.holds : Relation → Ordering → Bool
  | .eq, order => order == .eq
  | .ne, order => order != .eq
  | .gt, order => order == .gt
  | .ge, order => order != .lt
  | .lt, order => order == .lt
  | .le, order => order != .gt

/-- A test of a value. -/
inductive Condition where
  /-- The value stands in a relation to a literal. -/
  | compares (relation : Relation) (literal : Json) (comparer : Option Comparer)
  /-- The value equals one of the literals. -/
  | among (literals : List Json) (comparer : Option Comparer)
  /-- The text of the value contains a text, or the items of an array one that has
  it as its text. -/
  | contains (text : String)
  /-- The text of the value starts with a text. -/
  | startsWith (text : String)
  /-- The text of the value ends with a text. -/
  | endsWith (text : String)
  /-- Every part holds. -/
  | all (parts : List Condition)
  /-- Some part holds. -/
  | any (parts : List Condition)
  /-- The part does not hold. -/
  | not (part : Condition)
deriving Inhabited

namespace Condition

/-- Whether a text occurs somewhere in another. -/
def occursIn (part : List Char) : List Char → Bool
  | [] => part.isEmpty
  | c :: rest => part.isPrefixOf (c :: rest) || occursIn part rest

/-- The text of a value in lower case. -/
def foldedText? (value : Json) : Option (List Char) :=
  value.text?.map fun text => (Text.lowerCase text).toList

/-- Whether the value has a text, and its lower-case form passes a test. -/
def testText (test : List Char → Bool) (value : Json) : Bool :=
  match foldedText? value with
  | some text => test text
  | none => false

/-- Whether a value is in a relation to a literal that decides how it is read. Values
that cannot be compared are unequal and in no other relation. -/
def coercedHolds (relation : Relation) (literal value : Json) : Bool :=
  match relation with
  | .ne => !Coercion.equal value literal
  | relation => (Coercion.order? value literal).any relation.holds

/-- Whether a comparison holds. With a comparer, a value or a literal that has no
text is unequal to the other and in no other relation to it. -/
def compareHolds (relation : Relation) (literal : Json) (comparer : Option Comparer)
    (value : Json) : Except ComparisonError Bool :=
  match comparer with
  | none => .ok (coercedHolds relation literal value)
  | some comparer =>
    match value.text?, literal.text? with
    | some left, some right => (comparer.compare left right).map relation.holds
    | _, _ => .ok (relation == .ne)

/-- Whether a value equals one literal of a list. With a comparer, nothing equals a
value or a literal that has no text. -/
def equalHolds (literal : Json) (comparer : Option Comparer) (value : Json) :
    Except ComparisonError Bool :=
  match comparer, value.text?, literal.text? with
  | some comparer, some left, some right => (comparer.compare left right).map (· == .eq)
  | some _, _, _ => .ok false
  | none, _, _ => .ok (Coercion.equal value literal)

/-- Whether the value equals one of the literals, which are tried from the left. -/
def amongHolds (comparer : Option Comparer) (value : Json) :
    List Json → Except ComparisonError Bool
  | [] => .ok false
  | literal :: rest =>
    match equalHolds literal comparer value with
    | .ok false => amongHolds comparer value rest
    | decided => decided

/-- Without a comparer a relation holds as the order of the values has it; unequal is
all that values without an order are. -/
theorem coercedHolds_eq (relation : Relation) (literal value : Json) :
    coercedHolds relation literal value =
      (Coercion.order? value literal).elim (relation == .ne) relation.holds := by
  cases relation with
  | ne =>
    simp only [coercedHolds, Coercion.equal]
    cases Coercion.order? value literal <;> rfl
  | eq | gt | ge | lt | le =>
    simp only [coercedHolds]
    cases Coercion.order? value literal <;> rfl

/-- A value equals one literal of a list if the comparison for equality holds. -/
theorem equalHolds_eq (literal : Json) (comparer : Option Comparer) (value : Json) :
    equalHolds literal comparer value = compareHolds .eq literal comparer value := by
  cases comparer with
  | none =>
    simp only [equalHolds, compareHolds, coercedHolds_eq, Coercion.equal]
    cases Coercion.order? value literal <;> rfl
  | some comparer =>
    simp only [equalHolds, compareHolds]
    cases value.text? with
    | none => rfl
    | some left => cases literal.text? <;> rfl

/-- Whether the value contains a text: an array by an item that has it, any other
value by its own text. -/
def containsHolds (text : String) : Json → Bool
  | .array items => items.any fun item => testText (· == text.toList) item
  | value => testText (occursIn text.toList) value

mutual

/-- Whether a condition holds for a value; null stands for a property without a
value. -/
def holds (value : Json) : Condition → Except ComparisonError Bool
  | .compares relation literal comparer => compareHolds relation literal comparer value
  | .among literals comparer => amongHolds comparer value literals
  | .contains text => .ok (containsHolds text value)
  | .startsWith text => .ok (testText (fun folded => text.toList.isPrefixOf folded) value)
  | .endsWith text => .ok (testText (fun folded => text.toList.isSuffixOf folded) value)
  | .all parts => allHold value parts
  | .any parts => anyHold value parts
  | .not part => (holds value part).map (!·)

/-- Whether every condition holds, up to the first one that does not or fails. -/
def allHold (value : Json) : List Condition → Except ComparisonError Bool
  | [] => .ok true
  | part :: rest =>
    match holds value part with
    | .ok true => allHold value rest
    | decided => decided

/-- Whether some condition holds, up to the first one that does or fails. -/
def anyHold (value : Json) : List Condition → Except ComparisonError Bool
  | [] => .ok false
  | part :: rest =>
    match holds value part with
    | .ok false => anyHold value rest
    | decided => decided

end

end Condition

end Rulebook
