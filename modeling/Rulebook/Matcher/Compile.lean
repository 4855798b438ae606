import Rulebook.Condition.Compile
import Rulebook.Matcher

/-!
# Matchers as documents write them

A matcher is written as an object. A key with a dollar sign combines matchers:
`$or` and `$and` those of a list, `$not` negates one. Every other key is a
property with its condition. All entries of the object must match.
-/

namespace Rulebook.Matcher

/-- All of the parts; one alone stands for itself. -/
def conjunction : List Matcher → Matcher
  | [part] => part
  | parts => .all parts

/-- The entry of a property. -/
def compileProperty (registry : Registry) (name : String) (condition : Json) :
    Except CompileError Matcher := do
  let condition ← Condition.compile registry name none condition
  return .property name condition

mutual

/-- The entry at a key. -/
def compileEntry (registry : Registry) (key : String) (argument : Json) :
    Except CompileError Matcher :=
  if key = "$or" then
    match argument with
    | .array items => do
      let parts ← compileItems registry key items
      return .any parts
    | _ => .error (.matcher key .notMatchers)
  else if key = "$and" then
    match argument with
    | .array items => do
      let parts ← compileItems registry key items
      return .all parts
    | _ => .error (.matcher key .notMatchers)
  else if key = "$not" then
    match argument with
    | .object entries => do
      let parts ← compileEntries registry entries
      return .not (conjunction parts)
    | _ => .error (.matcher key .notMatcher)
  else if isOperatorKey key then .error (.unknownOperator key)
  else compileProperty registry key argument

/-- The matchers of the list at a key. -/
def compileItems (registry : Registry) (key : String) :
    List Json → Except CompileError (List Matcher)
  | [] => .ok []
  | .object entries :: rest => do
    let parts ← compileEntries registry entries
    let others ← compileItems registry key rest
    return conjunction parts :: others
  | _ :: _ => .error (.matcher key .notMatcher)

/-- The entries of an object, in key order. -/
def compileEntries (registry : Registry) :
    List (String × Json) → Except CompileError (List Matcher)
  | [] => .ok []
  | (key, argument) :: rest => do
    let part ← compileEntry registry key argument
    let others ← compileEntries registry rest
    return part :: others

end

/-- The matcher that an object writes. -/
def compile (registry : Registry) (entries : Dict Json) : Except CompileError Matcher := do
  let parts ← compileEntries registry entries
  return conjunction parts

end Rulebook.Matcher
