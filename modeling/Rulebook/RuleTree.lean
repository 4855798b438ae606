import Rulebook.Rule
import Rulebook.Text.LowerCase

/-!
# Partitions

A document may divide its rules by the values of properties: one level of keys
for each partition, and lists of rules below the last. A key is compared with the
text of the property in lower case; the key `*` is for what no other key gives a
value to.
-/

namespace Rulebook

/-- Rules divided by partitions. -/
inductive RuleTree where
  /-- Rules below the last partition. -/
  | leaf (rules : List Rule)
  /-- A partition: what is below its keys, which are in lower case, and what is
  below `*`. -/
  | branch (exact : List (String × RuleTree)) (fallback : Option RuleTree)

namespace RuleTree

/-- The key for what no other key gives a value to. -/
def wildcard : String := "*"

/-- A partition with what is below one more key. Of keys that differ only in case
the last one stays. -/
def addChild (key : String) (child : RuleTree) (exact : Dict RuleTree)
    (fallback : Option RuleTree) : Dict RuleTree × Option RuleTree :=
  if key = wildcard then (exact, some child)
  else (Dict.insert (Text.lowerCase key) child exact, fallback)

/-- The partition with the given children, which are compiled in key order. -/
def compileChildren (compileChild : Json → Except CompileError RuleTree)
    (exact : Dict RuleTree) (fallback : Option RuleTree) :
    List (String × Json) → Except CompileError RuleTree
  | [] => .ok (.branch exact fallback)
  | (key, written) :: rest => do
    let child ← compileChild written
    let (exact, fallback) := addChild key child exact fallback
    compileChildren compileChild exact fallback rest

/-- The rules below as many partitions as `depth` says. -/
def compile (registry : Registry) (declared : Option ValueType) :
    Nat → Json → Except CompileError RuleTree
  | 0, written => (Rule.compileAll registry declared written).map .leaf
  | depth + 1, .object children =>
    compileChildren (compile registry declared depth) [] none children
  | _ + 1, found => .error (.rule (.notPartition found))

/-- What the rules give to a context: those below the key that the context has,
and if they give nothing, those below `*`. The partitions are named from the top,
and a partition is asked for when it is reached. -/
def run (lookup : Lookup) (hasher : Hasher) : List String → RuleTree → Evaluation (Option Json)
  | _, .leaf rules => Rule.runFirst lookup hasher rules
  | [], .branch _ _ => pure none
  | partition :: partitions, .branch exact fallback => do
    let found ← Evaluation.ask lookup partition
    let key := (found.bind Json.text?).map Text.lowerCase
    let hit ← match key.bind fun key => Dict.find? key exact with
      | some below => run lookup hasher partitions below
      | none => pure none
    match hit, fallback with
    | some value, _ => pure (some value)
    | none, some below => run lookup hasher partitions below
    | none, none => pure none

mutual

/-- The number of rules. -/
def count : RuleTree → Nat
  | .leaf rules => rules.length
  | .branch exact none => countAll exact
  | .branch exact (some fallback) => countAll exact + count fallback

/-- The number of rules below the keys of a partition. -/
def countAll : List (String × RuleTree) → Nat
  | [] => 0
  | (_, below) :: rest => count below + countAll rest

end

end RuleTree

end Rulebook
