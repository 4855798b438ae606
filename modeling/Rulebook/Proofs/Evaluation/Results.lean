import Rulebook.Document
import Rulebook.Proofs.Success

/-!
# What evaluations end with

The result of a run does not depend on its events, so runs of matchers, rules and
partitions are taken here as their results alone. A test of a context ends with a
verdict, and a part of a document with an answer; of two verdicts or answers the
second counts only if the first leaves the question open.
-/

namespace Rulebook

/-- How a test ends: whether it holds, or with a refused text. -/
abbrev Verdict := Except ComparisonError Bool

namespace Verdict

/-- Both of two tests hold. The second counts only if the first holds. -/
def and (first second : Verdict) : Verdict :=
  match first with
  | .ok true => second
  | decided => decided

/-- One of two tests holds. The second counts only if the first does not hold. -/
def or (first second : Verdict) : Verdict :=
  match first with
  | .ok false => second
  | decided => decided

/-- A test does not hold. -/
def not (first : Verdict) : Verdict := first.map (!·)

/-- All of some tests hold. They count from the left, up to the first that does not
hold or is refused. -/
def all : List Verdict → Verdict
  | [] => .ok true
  | first :: rest => and first (all rest)

/-- Some of some tests hold. They count from the left, up to the first that holds or
is refused. -/
def any : List Verdict → Verdict
  | [] => .ok false
  | first :: rest => or first (any rest)

@[simp] theorem and_true (first : Verdict) : and first (.ok true) = first := by
  unfold and
  split <;> rfl

theorem error_of_and {first second : Verdict} {error : ComparisonError}
    (h : and first second = .error error) : first = .error error ∨ second = .error error := by
  unfold and at h
  split at h
  · exact Or.inr h
  · exact Or.inl h

theorem error_of_or {first second : Verdict} {error : ComparisonError}
    (h : or first second = .error error) : first = .error error ∨ second = .error error := by
  unfold or at h
  split at h
  · exact Or.inr h
  · exact Or.inl h

theorem error_of_not {first : Verdict} {error : ComparisonError}
    (h : not first = .error error) : first = .error error :=
  Except.map_eq_error_iff.mp h

/-- A conjunction is refused for a text that one of its tests is refused for. -/
theorem error_mem_of_all {tests : List Verdict} {error : ComparisonError}
    (h : all tests = .error error) : .error error ∈ tests := by
  induction tests with
  | nil => cases h
  | cons first rest ih =>
    rcases error_of_and h with hfirst | hrest
    · exact hfirst ▸ List.mem_cons_self
    · exact List.mem_cons_of_mem _ (ih hrest)

/-- A disjunction is refused for a text that one of its tests is refused for. -/
theorem error_mem_of_any {tests : List Verdict} {error : ComparisonError}
    (h : any tests = .error error) : .error error ∈ tests := by
  induction tests with
  | nil => cases h
  | cons first rest ih =>
    rcases error_of_or h with hfirst | hrest
    · exact hfirst ▸ List.mem_cons_self
    · exact List.mem_cons_of_mem _ (ih hrest)

end Verdict

/-- How a part of a document ends: with a value, without one, or with a refused
text. -/
abbrev Answer := Except ComparisonError (Option Json)

/-- The answer of one part or else of another. The second counts only if the first
has no value. -/
def Answer.orElse (first second : Answer) : Answer :=
  match first with
  | .ok none => second
  | decided => decided

@[simp] theorem Answer.none_orElse (second : Answer) :
    Answer.orElse (.ok none) second = second := rfl

@[simp] theorem Answer.orElse_none (first : Answer) :
    Answer.orElse first (.ok none) = first := by
  unfold orElse
  split <;> rfl

/-- A part that has decided leaves nothing to the other one. -/
theorem Answer.orElse_of_ne {first : Answer} (h : first ≠ .ok none) (second : Answer) :
    Answer.orElse first second = first := by
  unfold orElse
  split
  · exact absurd rfl h
  · rfl

namespace Evaluation

variable {α β : Type}

@[simp] theorem result_pure (result : α) : (pure result : Evaluation α).result = .ok result := rfl

/-- The result of one evaluation after another is that of the results. -/
@[simp] theorem result_bind (first : Evaluation α) (next : α → Evaluation β) :
    (first >>= next).result = first.result >>= fun value => (next value).result := by
  cases h : first.result with
  | error error =>
    rw [bind_of_error h]
    rfl
  | ok value =>
    rw [bind_of_ok h]
    rfl

@[simp] theorem result_ask (lookup : Lookup) (property : String) :
    (ask lookup property).result = .ok (lookup property) := rfl

@[simp] theorem result_digest (hasher : Hasher) (text : String) :
    (digest hasher text).result = .ok (hasher (textBytes text)) := rfl

@[simp] theorem result_ofExcept (result : Except ComparisonError α) :
    (ofExcept result).result = result := rfl

end Evaluation

namespace Condition

theorem allHold_cons (value : Json) (part : Condition) (rest : List Condition) :
    allHold value (part :: rest) = Verdict.and (holds value part) (allHold value rest) := by
  rw [allHold]
  rfl

theorem anyHold_cons (value : Json) (part : Condition) (rest : List Condition) :
    anyHold value (part :: rest) = Verdict.or (holds value part) (anyHold value rest) := by
  rw [anyHold]
  rfl

theorem allHold_eq (value : Json) (parts : List Condition) :
    allHold value parts = Verdict.all (parts.map (holds value)) := by
  induction parts with
  | nil => rw [allHold, List.map_nil, Verdict.all]
  | cons part rest ih => rw [allHold_cons, ih, List.map_cons, Verdict.all]

theorem anyHold_eq (value : Json) (parts : List Condition) :
    anyHold value parts = Verdict.any (parts.map (holds value)) := by
  induction parts with
  | nil => rw [anyHold, List.map_nil, Verdict.any]
  | cons part rest ih => rw [anyHold_cons, ih, List.map_cons, Verdict.any]

/-- A value is among some literals if it equals some of them. -/
theorem amongHolds_eq (comparer : Option Comparer) (value : Json) (literals : List Json) :
    amongHolds comparer value literals =
      Verdict.any (literals.map fun literal => compareHolds .eq literal comparer value) := by
  induction literals with
  | nil => rfl
  | cons literal rest ih =>
    rw [amongHolds, equalHolds_eq, ih]
    rfl

end Condition

namespace Matcher

theorem eval_all_nil (lookup : Lookup) : eval lookup (.all []) = .ok true := by
  simp only [eval, run, runAll, Evaluation.result_pure]

/-- All matchers of a list match if the first does and the others do. -/
theorem eval_all_cons (lookup : Lookup) (part : Matcher) (rest : List Matcher) :
    eval lookup (.all (part :: rest)) =
      Verdict.and (eval lookup part) (eval lookup (.all rest)) := by
  simp only [eval, run, runAll, Evaluation.result_bind]
  cases (run lookup part).result with
  | error error => rfl
  | ok matched => cases matched <;> rfl

theorem eval_any_nil (lookup : Lookup) : eval lookup (.any []) = .ok false := by
  simp only [eval, run, runAny, Evaluation.result_pure]

/-- Some matcher of a list matches if the first does or one of the others. -/
theorem eval_any_cons (lookup : Lookup) (part : Matcher) (rest : List Matcher) :
    eval lookup (.any (part :: rest)) =
      Verdict.or (eval lookup part) (eval lookup (.any rest)) := by
  simp only [eval, run, runAny, Evaluation.result_bind]
  cases (run lookup part).result with
  | error error => rfl
  | ok matched => cases matched <;> rfl

theorem eval_all (lookup : Lookup) (parts : List Matcher) :
    eval lookup (.all parts) = Verdict.all (parts.map (eval lookup)) := by
  induction parts with
  | nil => rw [eval_all_nil, List.map_nil, Verdict.all]
  | cons part rest ih => rw [eval_all_cons, ih, List.map_cons, Verdict.all]

theorem eval_any (lookup : Lookup) (parts : List Matcher) :
    eval lookup (.any parts) = Verdict.any (parts.map (eval lookup)) := by
  induction parts with
  | nil => rw [eval_any_nil, List.map_nil, Verdict.any]
  | cons part rest ih => rw [eval_any_cons, ih, List.map_cons, Verdict.any]

theorem eval_not (lookup : Lookup) (part : Matcher) :
    eval lookup (.not part) = Verdict.not (eval lookup part) := by
  simp only [eval, run, Evaluation.result_bind, Evaluation.result_pure]
  cases (run lookup part).result <;> rfl

/-- A property matches if its value, or else null, meets the condition. -/
theorem eval_property (lookup : Lookup) (name : String) (condition : Condition) :
    eval lookup (.property name condition) =
      condition.holds ((lookup name).getD .null) := by
  simp only [eval, run, Evaluation.result_bind, Evaluation.result_ask, Evaluation.result_ofExcept]
  rfl

end Matcher

/-- What an outcome gives to a context. -/
def Outcome.given (lookup : Lookup) (hasher : Hasher) : Outcome → Option Json
  | .fixed value => some value
  | .shared ownerType salt distribution =>
    ((lookup (Rule.ownerProperty ownerType)).bind Json.text?).bind fun owner =>
      distribution.pick (hasher (textBytes (Rule.hashInput owner salt))).bucket

namespace Rule

/-- An outcome never fails. -/
theorem result_outcome (lookup : Lookup) (hasher : Hasher) (outcome : Outcome) :
    (Outcome.run lookup hasher outcome).result = .ok (outcome.given lookup hasher) := by
  cases outcome with
  | fixed value => rfl
  | shared ownerType salt distribution =>
    simp only [Outcome.run, Outcome.given, Evaluation.result_bind, Evaluation.result_ask,
      Except.ok_bind]
    cases (lookup (ownerProperty ownerType)).bind Json.text? <;> rfl

/-- A rule gives its outcome if its matcher matches, and fails only with it. -/
theorem result_run (lookup : Lookup) (hasher : Hasher) (rule : Rule) :
    (rule.run lookup hasher).result =
      (rule.matcher.eval lookup).map fun matched =>
        if matched then rule.outcome.given lookup hasher else none := by
  unfold run Matcher.eval
  rw [Evaluation.result_bind]
  cases (rule.matcher.run lookup).result with
  | error error => rfl
  | ok matched =>
    cases matched with
    | false => rfl
    | true => exact result_outcome lookup hasher rule.outcome

/-- The first rule of a list answers, or else the others. -/
theorem result_runFirst_cons (lookup : Lookup) (hasher : Hasher) (rule : Rule)
    (rest : List Rule) :
    (runFirst lookup hasher (rule :: rest)).result =
      Answer.orElse (rule.run lookup hasher).result (runFirst lookup hasher rest).result := by
  rw [runFirst, Evaluation.result_bind]
  cases (rule.run lookup hasher).result with
  | error error => rfl
  | ok hit => cases hit <;> rfl

/-- The front of a list of rules answers, or else its back. -/
theorem result_runFirst_append (lookup : Lookup) (hasher : Hasher) (front back : List Rule) :
    (runFirst lookup hasher (front ++ back)).result =
      Answer.orElse (runFirst lookup hasher front).result
        (runFirst lookup hasher back).result := by
  rw [runFirst_append]
  rfl

end Rule

namespace RuleTree

/-- The key that a context has in a partition. -/
def contextKey (lookup : Lookup) (partition : String) : Option String :=
  ((lookup partition).bind Json.text?).map Text.lowerCase

/-- A run of the rules below a key, if the key is there. -/
def runBelow (lookup : Lookup) (hasher : Hasher) (partitions : List String) :
    Option RuleTree → Evaluation (Option Json)
  | some below => run lookup hasher partitions below
  | none => pure none

/-- A partition asks for its property and runs the rules below the key of the context,
and those below `*` if that gives nothing. -/
theorem run_branch (lookup : Lookup) (hasher : Hasher) (partition : String)
    (partitions : List String) (exact : List (String × RuleTree)) (fallback : Option RuleTree) :
    run lookup hasher (partition :: partitions) (.branch exact fallback) =
      Evaluation.ask lookup partition >>= fun found =>
        runBelow lookup hasher partitions
          (((found.bind Json.text?).map Text.lowerCase).bind fun key => Dict.find? key exact) >>=
        fun hit => match hit with
          | some value => pure (some value)
          | none => runBelow lookup hasher partitions fallback := by
  rw [run]
  refine congrArg (Evaluation.ask lookup partition >>= ·) (funext fun found => ?_)
  dsimp only
  cases ((found.bind Json.text?).map Text.lowerCase).bind fun key => Dict.find? key exact with
  | none => cases fallback <;> rfl
  | some below =>
    refine congrArg (run lookup hasher partitions below >>= ·) (funext fun hit => ?_)
    cases hit with
    | some value => rfl
    | none => cases fallback <;> rfl

/-- The answer of the rules below a key, if the key is there. -/
def answerBelow (lookup : Lookup) (hasher : Hasher) (partitions : List String) :
    Option RuleTree → Answer
  | some below => (run lookup hasher partitions below).result
  | none => .ok none

/-- The rules below the key of the context answer, or else those below `*`. -/
theorem result_run_branch (lookup : Lookup) (hasher : Hasher) (partition : String)
    (partitions : List String) (exact : List (String × RuleTree)) (fallback : Option RuleTree) :
    (run lookup hasher (partition :: partitions) (.branch exact fallback)).result =
      Answer.orElse
        (answerBelow lookup hasher partitions
          ((contextKey lookup partition).bind fun key => Dict.find? key exact))
        (answerBelow lookup hasher partitions fallback) := by
  simp only [run, Evaluation.result_bind, Evaluation.result_ask, Except.ok_bind, contextKey]
  cases (((lookup partition).bind Json.text?).map Text.lowerCase).bind
    fun key => Dict.find? key exact with
  | none => cases fallback <;> rfl
  | some below =>
    simp only [answerBelow, Evaluation.result_bind]
    cases (run lookup hasher partitions below).result with
    | error error => rfl
    | ok hit =>
      cases hit with
      | some value => rfl
      | none => cases fallback <;> rfl

end RuleTree

/-- A document answers with its rules, or else with its default value. -/
theorem Document.evaluate_eq (lookup : Lookup) (hasher : Hasher) (document : Document) :
    document.evaluate lookup hasher =
      (document.rules.run lookup hasher document.partitions).result.map
        (·.or document.defaultValue) := by
  unfold evaluate run
  rw [Evaluation.result_bind]
  cases (document.rules.run lookup hasher document.partitions).result <;> rfl

end Rulebook
