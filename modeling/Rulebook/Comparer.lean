import Rulebook.Dict

/-!
# Comparers

A comparer is a named way to order texts. It may refuse a text, and then the
comparison fails with the text and a reason. A matcher picks a comparer by its
name from a registry. Registering a comparer under a name that is taken replaces
the earlier one.
-/

namespace Rulebook

/-- A text that a comparer does not understand. -/
structure ComparisonError where
  /-- The comparer. -/
  comparer : String
  /-- The text. -/
  operand : String
  /-- What is wrong with it. -/
  reason : String
deriving DecidableEq, Repr

/-- The wording of a refused text. -/
def ComparisonError.message (error : ComparisonError) : String :=
  s!"comparer `{error.comparer}` cannot parse `{error.operand}`: {error.reason}"

/-- A named order of texts. -/
structure Comparer where
  /-- The name that matchers use. -/
  name : String
  /-- The order of two texts, or the text that is refused. -/
  compare : String → String → Except ComparisonError Ordering

/-- Comparers by their names. -/
structure Registry where
  /-- The comparers, in the order of their names. -/
  comparers : Dict Comparer

namespace Registry

/-- No comparer at all. -/
def empty : Registry := ⟨[]⟩

/-- The registry with one more comparer, in place of an earlier one of its name. -/
def register (comparer : Comparer) (registry : Registry) : Registry :=
  ⟨Dict.insert comparer.name comparer registry.comparers⟩

/-- The comparer of a name. -/
def get? (registry : Registry) (name : String) : Option Comparer :=
  Dict.find? name registry.comparers

/-- The names in order. -/
def names (registry : Registry) : List String := Dict.keys registry.comparers

theorem get?_register_self (comparer : Comparer) (registry : Registry) :
    (registry.register comparer).get? comparer.name = some comparer :=
  Dict.find?_insert_self comparer.name comparer registry.comparers

theorem get?_register_of_ne {name : String} {comparer : Comparer}
    (hne : name ≠ comparer.name) (registry : Registry) :
    (registry.register comparer).get? name = registry.get? name :=
  Dict.find?_insert_of_ne hne comparer registry.comparers

end Registry

end Rulebook
