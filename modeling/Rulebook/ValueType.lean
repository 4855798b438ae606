import Rulebook.Json.Reader

/-!
# Declared types of values

A document may declare one type for every value it can produce: a kind of JSON
value. A key that stands for a value is read as one of the declared type.
-/

namespace Rulebook

/-- A kind of JSON value that a document can declare. -/
inductive ValueType where
  /-- Texts. -/
  | string
  /-- Numbers. -/
  | number
  /-- Truth values. -/
  | boolean
  /-- Objects. -/
  | object
  /-- Arrays. -/
  | array
deriving DecidableEq, Repr

namespace ValueType

/-- The name of a type in documents and messages. -/
def name : ValueType → String
  | .string => "string"
  | .number => "number"
  | .boolean => "boolean"
  | .object => "object"
  | .array => "array"

/-- The types with their names, in the order in which messages list them. -/
def named : List (String × ValueType) :=
  [.string, .number, .boolean, .object, .array].map fun type => (type.name, type)

/-- Whether a value is of a type. -/
def admits : ValueType → Json → Bool
  | .string, .string _ => true
  | .number, .number _ => true
  | .boolean, .bool _ => true
  | .object, .object _ => true
  | .array, .array _ => true
  | _, _ => false

end ValueType

end Rulebook
