import Rulebook.Proofs.Evaluation.Results

/-!
# Ends of evaluations that are alike

Two evaluations may be compared strictly, so that only the same end is alike, or
leniently, so that a failure is alike to everything. Parts that are alike make wholes
that are alike, and the parts of a conjunction may change their order if none of them
fails or failures do not matter.
-/

namespace Rulebook

namespace Evaluation

variable {α β : Type} {lenient : Prop}

/-- An evaluation ended with a refused text. -/
def Failed (result : Except ComparisonError α) : Prop := ∃ error, result = .error error

/-- Two ends are the same, or one is a failure and this is allowed. -/
def Alike (lenient : Prop) (one other : Except ComparisonError α) : Prop :=
  one = other ∨ lenient ∧ (Failed one ∨ Failed other)

theorem Alike.of_eq {one other : Except ComparisonError α} (h : one = other) :
    Alike lenient one other := Or.inl h

theorem Alike.eq_of_ok {value result : α}
    (h : Alike lenient (.ok value) (.ok result : Except ComparisonError α)) : value = result := by
  rcases h with hsame | ⟨-, ⟨error, herror⟩ | ⟨error, herror⟩⟩
  · exact Except.ok.inj hsame
  · cases herror
  · cases herror

/-- Alike ends are followed by alike ends. -/
theorem Alike.bind {one other : Except ComparisonError α}
    {next nextOther : α → Except ComparisonError β} (h : Alike lenient one other)
    (hnext : ∀ value, Alike lenient (next value) (nextOther value)) :
    Alike lenient (one >>= next) (other >>= nextOther) := by
  rcases h with rfl | ⟨hlenient, ⟨error, rfl⟩ | ⟨error, rfl⟩⟩
  · cases one with
    | error error => exact .of_eq rfl
    | ok value => exact hnext value
  · exact Or.inr ⟨hlenient, Or.inl ⟨error, rfl⟩⟩
  · exact Or.inr ⟨hlenient, Or.inr ⟨error, rfl⟩⟩

theorem Alike.map {one other : Except ComparisonError α} (h : Alike lenient one other)
    (change : α → β) : Alike lenient (one.map change) (other.map change) := by
  rcases h with rfl | ⟨hlenient, ⟨error, rfl⟩ | ⟨error, rfl⟩⟩
  · exact .of_eq rfl
  · exact Or.inr ⟨hlenient, Or.inl ⟨error, rfl⟩⟩
  · exact Or.inr ⟨hlenient, Or.inr ⟨error, rfl⟩⟩

end Evaluation

namespace Verdict

open Evaluation (Alike Failed)

variable {lenient : Prop}

theorem and_eq_bind (first second : Verdict) :
    and first second = first >>= fun held => if held then second else .ok false := by
  cases first with
  | error error => rfl
  | ok held => cases held <;> rfl

theorem or_eq_bind (first second : Verdict) :
    or first second = first >>= fun held => if held then .ok true else second := by
  cases first with
  | error error => rfl
  | ok held => cases held <;> rfl

/-- Conjunctions of tests that are alike are alike. -/
theorem alike_all {tests others : List Verdict}
    (h : List.Forall₂ (Alike lenient) tests others) : Alike lenient (all tests) (all others) := by
  induction h with
  | nil => exact .of_eq rfl
  | cons hfirst _ ih =>
    rw [all, all, and_eq_bind, and_eq_bind]
    refine hfirst.bind fun held => ?_
    cases held with
    | true => exact ih
    | false => exact .of_eq rfl

/-- Disjunctions of tests that are alike are alike. -/
theorem alike_any {tests others : List Verdict}
    (h : List.Forall₂ (Alike lenient) tests others) : Alike lenient (any tests) (any others) := by
  induction h with
  | nil => exact .of_eq rfl
  | cons hfirst _ ih =>
    rw [any, any, or_eq_bind, or_eq_bind]
    refine hfirst.bind fun held => ?_
    cases held with
    | true => exact .of_eq rfl
    | false => exact ih

/-- A conjunction holds exactly if all of its tests do. -/
theorem all_eq_ok_true_iff {tests : List Verdict} :
    all tests = .ok true ↔ ∀ test ∈ tests, test = .ok true := by
  induction tests with
  | nil => simp [all]
  | cons first rest ih =>
    rw [List.forall_mem_cons, all, and_eq_bind, Except.bind_eq_ok_iff, ← ih]
    constructor
    · rintro ⟨held, rfl, hrest⟩
      cases held with
      | true => exact ⟨rfl, hrest⟩
      | false => cases hrest
    · rintro ⟨rfl, hrest⟩
      exact ⟨true, rfl, hrest⟩

/-- A conjunction that does not hold has a test that does not. -/
theorem mem_of_all_eq_ok_false {tests : List Verdict} (h : all tests = .ok false) :
    .ok false ∈ tests := by
  induction tests with
  | nil => cases h
  | cons first rest ih =>
    rw [all, and_eq_bind] at h
    obtain ⟨held, rfl, hrest⟩ := Except.bind_eq_ok_iff.mp h
    cases held with
    | true => exact List.mem_cons_of_mem _ (ih hrest)
    | false => exact List.mem_cons_self

/-- Conjunctions of tests that are alike hold both or neither, in whatever order. -/
theorem eq_of_all_perm {tests renamed others : List Verdict}
    (h : List.Forall₂ (Alike lenient) tests renamed) (hperm : renamed.Perm others)
    {held other : Bool} (htests : all tests = .ok held) (hothers : all others = .ok other) :
    held = other := by
  cases held with
  | true =>
    cases other with
    | true => rfl
    | false =>
      have hmem := hperm.mem_iff.mpr (mem_of_all_eq_ok_false hothers)
      obtain ⟨test, htest, halike⟩ := h.exists_left hmem
      rw [all_eq_ok_true_iff.mp htests test htest] at halike
      exact halike.eq_of_ok
  | false =>
    cases other with
    | true =>
      obtain ⟨test, htest, halike⟩ := h.exists_right (mem_of_all_eq_ok_false htests)
      rw [all_eq_ok_true_iff.mp hothers test (hperm.mem_iff.mp htest)] at halike
      exact halike.eq_of_ok
    | false => rfl

/-- A conjunction may change the order of its tests, up to what is alike, if failures do
not matter or none of the tests fails. -/
theorem alike_all_of_perm {tests renamed others : List Verdict}
    (h : List.Forall₂ (Alike lenient) tests renamed) (hperm : renamed.Perm others)
    (hfree : lenient ∨ ∀ test ∈ tests, ¬ Failed test) :
    Alike lenient (all tests) (all others) := by
  -- Every failure is that of a test, so failures do not matter if there is one.
  have hlenient : ∀ error, all tests = .error error ∨ all others = .error error → lenient := by
    rintro error (hfailed | hfailed)
    · rcases hfree with hlenient | hnone
      · exact hlenient
      · exact absurd ⟨error, rfl⟩ (hnone _ (error_mem_of_all hfailed))
    · have hmem := hperm.mem_iff.mpr (error_mem_of_all hfailed)
      obtain ⟨test, htest, hsame | ⟨hlenient, -⟩⟩ := h.exists_left hmem
      · rcases hfree with hlenient | hnone
        · exact hlenient
        · exact absurd ⟨error, hsame⟩ (hnone test htest)
      · exact hlenient
  cases htests : all tests with
  | error error => exact Or.inr ⟨hlenient error (Or.inl htests), Or.inl ⟨error, rfl⟩⟩
  | ok held =>
    cases hothers : all others with
    | error error => exact Or.inr ⟨hlenient error (Or.inr hothers), Or.inr ⟨error, rfl⟩⟩
    | ok other => exact .of_eq (congrArg Except.ok (eq_of_all_perm h hperm htests hothers))

end Verdict

/-- Parts of a document that are alike leave the same open. -/
theorem Answer.alike_orElse {lenient : Prop} {first second other last : Answer}
    (hfirst : Evaluation.Alike lenient first other)
    (hsecond : Evaluation.Alike lenient second last) :
    Evaluation.Alike lenient (first.orElse second) (other.orElse last) := by
  have heq : ∀ one two : Answer, one.orElse two =
      one >>= fun hit => hit.elim two fun value => .ok (some value) := by
    intro one two
    cases one with
    | error error => rfl
    | ok hit => cases hit <;> rfl
  rw [heq, heq]
  refine hfirst.bind fun hit => ?_
  cases hit with
  | none => exact hsecond
  | some value => exact .of_eq rfl

end Rulebook
