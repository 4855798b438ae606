import Rulebook.Condition
import Rulebook.Evaluation

/-!
# Matchers

A matcher is a test of a context, built from conditions on single properties. Its
parts are tried from the left, up to the first one that decides or fails, and a
property is asked for only when its condition is tried.
-/

namespace Rulebook

/-- A test of a context. -/
inductive Matcher where
  /-- Every part matches. -/
  | all (parts : List Matcher)
  /-- Some part matches. -/
  | any (parts : List Matcher)
  /-- The part does not match. -/
  | not (part : Matcher)
  /-- The value of a property meets a condition. -/
  | property (name : String) (condition : Condition)
deriving Inhabited

namespace Matcher

mutual

/-- Whether a matcher matches. A property without a value has the value null. -/
def run (lookup : Lookup) : Matcher → Evaluation Bool
  | .all parts => runAll lookup parts
  | .any parts => runAny lookup parts
  | .not part => do return !(← run lookup part)
  | .property name condition => do
    let value ← Evaluation.ask lookup name
    Evaluation.ofExcept (condition.holds (value.getD .null))

/-- Whether every matcher matches, up to the first one that does not or fails. -/
def runAll (lookup : Lookup) : List Matcher → Evaluation Bool
  | [] => pure true
  | part :: rest => do
    let matched ← run lookup part
    if matched then runAll lookup rest else pure false

/-- Whether some matcher matches, up to the first one that does or fails. -/
def runAny (lookup : Lookup) : List Matcher → Evaluation Bool
  | [] => pure false
  | part :: rest => do
    let matched ← run lookup part
    if matched then pure true else runAny lookup rest

end

/-- The result of a matcher, without what it asked for. -/
def eval (lookup : Lookup) (matcher : Matcher) : Except ComparisonError Bool :=
  (matcher.run lookup).result

end Matcher

end Rulebook
