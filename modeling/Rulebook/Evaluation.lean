import Rulebook.Comparer
import Rulebook.Hash
import Rulebook.Json

/-!
# Evaluations and what they ask for

An evaluation asks for the values of properties and for digests of texts, and
ends with a result or with a text that a comparer refused. It keeps all that it
asked for, in order, so that statements about which properties matter and about
hashing are statements about its events.
-/

namespace Rulebook

/-- What an evaluation asks for. -/
inductive Event where
  /-- The value of a property, by the name used. -/
  | asked (property : String)
  /-- The digest of a text. -/
  | hashed (text : String)
deriving DecidableEq, Repr

/-- The values of properties. -/
abbrev Lookup := String → Option Json

/-- The events of an evaluation and how it ended. -/
structure Evaluation (α : Type) where
  /-- What was asked for, the first event first. -/
  events : List Event
  /-- The result, or the text that was refused. -/
  result : Except ComparisonError α

namespace Evaluation

variable {α β : Type}

/-- An evaluation that asks for nothing. -/
def ofExcept (result : Except ComparisonError α) : Evaluation α := ⟨[], result⟩

/-- A result at once. -/
def done (result : α) : Evaluation α := ofExcept (.ok result)

/-- One evaluation after another; a failure ends both. -/
def andThen (first : Evaluation α) (next : α → Evaluation β) : Evaluation β :=
  match first.result with
  | .error error => ⟨first.events, .error error⟩
  | .ok value =>
    let second := next value
    ⟨first.events ++ second.events, second.result⟩

instance : Monad Evaluation where
  pure := done
  bind := andThen

theorem bind_of_ok {first : Evaluation α} {value : α} (h : first.result = .ok value)
    (next : α → Evaluation β) :
    first >>= next = ⟨first.events ++ (next value).events, (next value).result⟩ := by
  change andThen first next = _
  unfold andThen
  rw [h]

theorem bind_of_error {first : Evaluation α} {error : ComparisonError}
    (h : first.result = .error error) (next : α → Evaluation β) :
    first >>= next = ⟨first.events, .error error⟩ := by
  change andThen first next = _
  unfold andThen
  rw [h]

theorem pure_eq (result : α) : (pure result : Evaluation α) = ⟨[], .ok result⟩ := rfl

/-- The value of a property. -/
def ask (lookup : Lookup) (property : String) : Evaluation (Option Json) :=
  ⟨[.asked property], .ok (lookup property)⟩

/-- The digest of a text. -/
def digest (hasher : Hasher) (text : String) : Evaluation Digest :=
  ⟨[.hashed text], .ok (hasher (textBytes text))⟩

/-- The names of the properties asked for, in order and as often as asked. -/
def lookups (evaluation : Evaluation α) : List String :=
  evaluation.events.filterMap fun
    | .asked property => some property
    | .hashed _ => none

/-- The texts whose digests were asked for, in order. -/
def hashedTexts (evaluation : Evaluation α) : List String :=
  evaluation.events.filterMap fun
    | .asked _ => none
    | .hashed text => some text

end Evaluation

end Rulebook
