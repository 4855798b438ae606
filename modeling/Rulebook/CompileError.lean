import Rulebook.Comparer
import Rulebook.Json.Printer
import Rulebook.Shape
import Rulebook.ValueType

/-!
# Why a document does not compile

The causes, each with the part of the document at fault, and their wording.
-/

namespace Rulebook

/-- What is wrong with a matcher or with the condition on a property. -/
inductive MatcherFault where
  /-- A list of matchers was wanted. -/
  | notMatchers
  /-- A matcher was wanted. -/
  | notMatcher
  /-- The name of a comparer was wanted. -/
  | notComparerName
  /-- An object of operators has none. -/
  | noOperator
  /-- An array or object stands where a scalar was wanted. -/
  | notScalar (found : Json)
  /-- A list of literals was wanted. -/
  | notLiterals
  /-- An operator on texts has an argument without a text. -/
  | notText (operator : String)
  /-- An operator that combines conditions has neither a list nor an object. -/
  | notConditions (operator : String)
  /-- A key of an object of operators is no operator. -/
  | unexpectedKey (key : String)
  /-- A literal that a comparer should take has no text. -/
  | notOperand (literal : Json)

/-- The wording of a matcher fault. -/
def MatcherFault.message : MatcherFault → String
  | .notMatchers => "expected an array of matchers"
  | .notMatcher => "expected a matcher object"
  | .notComparerName => "`$compare` expects a comparer name"
  | .noOperator => "expected at least one operator"
  | .notScalar found => s!"expected a scalar, got {found.render}"
  | .notLiterals => "`$in` expects an array"
  | .notText operator => s!"`{operator}` expects a string"
  | .notConditions operator => s!"`{operator}` expects an array or object"
  | .unexpectedKey key => s!"unexpected key `{key}`"
  | .notOperand literal => s!"comparer operand {literal.render} is not a scalar"

/-- What is wrong with a rule. -/
inductive RuleFault where
  /-- A partition level is not an object. -/
  | notPartition (found : Json)
  /-- A rule with one variant has no value. -/
  | noValue
  /-- A rule with several variants has no owner type. -/
  | noOwnerType
  /-- A rule with several variants has nothing to hash beside the owner. -/
  | noSalt
  /-- A rule with several variants has no distribution. -/
  | noDistribution

/-- The wording of a rule fault. -/
def RuleFault.message : RuleFault → String
  | .notPartition found => s!"expected a partition object, got {found.render}"
  | .noValue => "single variant rule without `Value`"
  | .noOwnerType => "multi variant rule without `OwnerType`"
  | .noSalt => "multi variant rule needs `Salt` or `Id`"
  | .noDistribution => "multi variant rule without `ValueDistribution`"

/-- What is wrong with a value distribution. -/
inductive DistributionFault where
  /-- Equal shares need a list of values. -/
  | notValues
  /-- Weights need an object or a list. -/
  | notWeights
  /-- An entry of a list of weights is not an object. -/
  | notEntry
  /-- An entry of a list of weights has no value. -/
  | noValue
  /-- A weight is not a non-negative integer. -/
  | notWeight (found : Json)
  /-- A probability is not a number from zero to one. -/
  | notProbability
  /-- There is no distribution of this name. -/
  | unknown (name : String)
  /-- The weights together exceed 64 bits. -/
  | overflow
  /-- All weights are zero. -/
  | noWeight

/-- The wording of a distribution fault. -/
def DistributionFault.message : DistributionFault → String
  | .notValues => "`uniform` expects an array of values"
  | .notWeights => "`weighted` expects an object or an array"
  | .notEntry => "weighted entries must be objects"
  | .noValue => "weighted entry without `value`"
  | .notWeight found => s!"weight {found.render} is not a non-negative integer"
  | .notProbability => "`bernoulli` expects a probability between 0 and 1"
  | .unknown name => s!"unknown distribution type `{name}`"
  | .overflow => "total weight overflows"
  | .noWeight => "total weight must be positive"

/-- Why a document does not compile. -/
inductive CompileError where
  /-- The text is not JSON. -/
  | notJson
  /-- The JSON value does not have the shape of a document. -/
  | shape (error : ShapeError)
  /-- The matcher at a key is not well-formed. The key is a property or an operator
  that combines matchers, or else the comparer that a literal is given to. -/
  | matcher (key : String) (fault : MatcherFault)
  /-- There is no operator of this name. -/
  | unknownOperator (name : String)
  /-- There is no comparer of this name. -/
  | unknownComparer (name : String)
  /-- A rule is not well-formed. -/
  | rule (fault : RuleFault)
  /-- A value distribution is not well-formed. -/
  | distribution (fault : DistributionFault)
  /-- A value is not of the declared type; it is given by its text. -/
  | valueType (value : String) (expected : ValueType)
  /-- A literal is refused by the comparer that it is given to. -/
  | operand (error : ComparisonError)

namespace CompileError

/-- The wording of a compile error. The text of what is wrong with JSON text is
not part of it. -/
def message : CompileError → String
  | .notJson => "malformed document"
  | .shape error => s!"malformed document: {error.message}"
  | .matcher key fault => s!"invalid matcher for `{key}`: {fault.message}"
  | .unknownOperator name => s!"unknown operator `{name}`"
  | .unknownComparer name => s!"unknown comparer `{name}`"
  | .rule fault => s!"invalid rule: {fault.message}"
  | .distribution fault => s!"invalid value distribution: {fault.message}"
  | .valueType value expected => s!"value {value} does not match value type `{expected.name}`"
  | .operand error => error.message

/-- A value must be of a type. -/
def checkType (expected : ValueType) (value : Json) : Except CompileError Unit :=
  if expected.admits value then .ok () else .error (.valueType value.render expected)

/-- A value must be of the declared type, if one is declared. -/
def checkDeclared (declared : Option ValueType) (value : Json) : Except CompileError Unit :=
  match declared with
  | some expected => checkType expected value
  | none => .ok ()

/-- A key that stands for a value of a type: itself for texts, else the value that
it writes. -/
def readKey (expected : ValueType) (key : String) : Except CompileError Json :=
  if expected = .string then .ok (.string key)
  else
    match Json.read? key with
    | none => .error (.valueType key expected)
    | some value => do
      checkType expected value
      return value

end CompileError

end Rulebook
