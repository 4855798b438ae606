import Rulebook.Proofs.Evaluation.Results

/-!
# The six comparisons together

The six comparisons of a value with a literal ask for one order, of the coerced values or
from a comparer. So either all of them are refused for the same text, or their answers fit
together, also where there is no order. Membership in a list asks for equality with one
literal after the other, by the same order.
-/

namespace Rulebook

namespace Relation

/-- The answers to six comparisons fit together. -/
structure Coherent (answer : Relation → Bool) : Prop where
  /-- Of less, equal and greater one holds at most. -/
  exclusive : [lt, eq, gt].countP answer ≤ 1
  /-- Less or equal is what it says. -/
  le_eq : answer le = (answer lt || answer eq)
  /-- Greater or equal is what it says. -/
  ge_eq : answer ge = (answer gt || answer eq)
  /-- Not equal is the opposite of equal. -/
  ne_eq : answer ne = !answer eq

theorem coherent_holds (order : Ordering) : Coherent fun relation => relation.holds order := by
  cases order with
  | lt | eq | gt => exact ⟨by decide, rfl, rfl, rfl⟩

theorem coherent_unordered : Coherent fun relation => relation == .ne :=
  ⟨by decide, rfl, rfl, rfl⟩

end Relation

namespace Condition

/-- Comparisons that read the value as the literal says fit together. -/
theorem coherent_coercedHolds (literal value : Json) :
    Relation.Coherent fun relation => coercedHolds relation literal value := by
  simp only [coercedHolds_eq]
  cases Coercion.order? value literal with
  | none => exact Relation.coherent_unordered
  | some order => exact Relation.coherent_holds order

/-- Comparisons by a comparer are all refused for the same text or fit together. -/
theorem refused_or_coherent_of_comparer (literal : Json) (comparer : Comparer) (value : Json) :
    (∃ error, ∀ relation,
      compareHolds relation literal (some comparer) value = .error error) ∨
    ∃ answer, Relation.Coherent answer ∧
      ∀ relation, compareHolds relation literal (some comparer) value = .ok (answer relation) := by
  unfold compareHolds
  cases value.text? with
  | none => exact Or.inr ⟨_, Relation.coherent_unordered, fun _ => rfl⟩
  | some left =>
    cases literal.text? with
    | none => exact Or.inr ⟨_, Relation.coherent_unordered, fun _ => rfl⟩
    | some right =>
      dsimp only
      cases comparer.compare left right with
      | error error => exact Or.inl ⟨error, fun _ => rfl⟩
      | ok order => exact Or.inr ⟨_, Relation.coherent_holds order, fun _ => rfl⟩

/-- The six comparisons of any value with any literal are all refused for the same text, which
takes a comparer, or their answers fit together. Membership in a list of literals ends as
trying the comparisons for equality with them from the left does. -/
theorem comparisons_coherent (value : Json) (comparer : Option Comparer) :
    (∀ literal,
      (∃ found error, comparer = some found ∧
        ∀ relation, holds value (.compares relation literal comparer) = .error error) ∨
      ∃ answer, Relation.Coherent answer ∧
        ∀ relation, holds value (.compares relation literal comparer) = .ok (answer relation)) ∧
    ∀ literals, holds value (.among literals comparer) =
      holds value (.any (literals.map fun literal => .compares .eq literal comparer)) := by
  constructor
  · intro literal
    simp only [holds]
    cases comparer with
    | none => exact Or.inr ⟨_, coherent_coercedHolds literal value, fun _ => rfl⟩
    | some found =>
      rcases refused_or_coherent_of_comparer literal found value with ⟨error, herror⟩ | hanswer
      · exact Or.inl ⟨found, error, rfl, herror⟩
      · exact Or.inr hanswer
  · intro literals
    rw [holds, holds, amongHolds_eq, anyHold_eq, List.map_map]
    refine congrArg Verdict.any (List.map_congr_left fun literal _ => ?_)
    rw [Function.comp_apply, holds]

/-- What the text `nan` writes has no order to a number, and is unequal to it. -/
example :
    holds (.string "nan") (.compares .ge (.number (.natural 5)) none) = .ok false ∧
      holds (.string "nan") (.compares .ne (.number (.natural 5)) none) = .ok true := by
  constructor <;> rfl

end Condition

end Rulebook
