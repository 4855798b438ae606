import Rulebook.Distribution
import Rulebook.Matcher.Compile

/-!
# Rules

A rule gives a value to the contexts that its matcher matches: always the same
value, or one that the owner named in the context picks from a distribution. The
salt of a rule keeps its assignment of owners apart from that of other rules.
-/

namespace Rulebook

/-- How many variants a rule has. -/
inductive Variants where
  /-- One value. -/
  | single
  /-- Values of a distribution. -/
  | multiple
deriving DecidableEq, Repr

/-- The names of the two kinds of rules, in the order in which messages list
them. -/
def Variants.named : List (String × Variants) :=
  [("SingleVariant", .single), ("MultiVariant", .multiple)]

/-- A rule as a document writes it. -/
structure WrittenRule where
  /-- The name of the rule. -/
  id : Option String
  /-- The entries of the matcher. -/
  matcher : Dict Json
  /-- How many variants the rule has. -/
  variants : Variants
  /-- The value; a null that is written counts as a value. -/
  value : Option Json
  /-- The kind of owner that picks the variant. -/
  ownerType : Option String
  /-- The text hashed beside the owner. -/
  salt : Option String
  /-- The distribution of the variants. -/
  distribution : Option WrittenDistribution

namespace WrittenRule

/-- A rule with no field written. -/
def blank : WrittenRule := ⟨none, [], .single, none, none, none, none⟩

/-- The fields in the order in which a list gives them. -/
def fieldNames : List String :=
  ["Id", "Matcher", "Type", "Value", "OwnerType", "Salt", "ValueDistribution"]

/-- A field of a rule. -/
def readField (rule : WrittenRule) (name : String) (value : Json) :
    Except ShapeError WrittenRule :=
  match name with
  | "Id" => do
    let id ← Shape.optional Shape.text value
    return { rule with id }
  | "Matcher" => do
    let matcher ← Shape.fields value
    return { rule with matcher }
  | "Type" => do
    let variants ← Shape.choice Variants.named value
    return { rule with variants }
  | "Value" => .ok { rule with value := some value }
  | "OwnerType" => do
    let ownerType ← Shape.optional Shape.text value
    return { rule with ownerType }
  | "Salt" => do
    let salt ← Shape.optional Shape.text value
    return { rule with salt }
  | "ValueDistribution" => do
    let distribution ← Shape.optional WrittenDistribution.read value
    return { rule with distribution }
  | _ => .ok rule

/-- A rule, given as an object or as the list of its fields. -/
def read : Json → Except ShapeError WrittenRule :=
  Shape.record .rule fieldNames blank readField

end WrittenRule

/-- What a rule gives. -/
inductive Outcome where
  /-- A value. -/
  | fixed (value : Json)
  /-- The value that an owner of a type picks from a distribution. -/
  | shared (ownerType salt : String) (distribution : Distribution)

/-- A compiled rule. -/
structure Rule where
  /-- Which contexts the rule is for. -/
  matcher : Matcher
  /-- What it gives them. -/
  outcome : Outcome

namespace Rule

/-- The property that holds the owner of a type. -/
def ownerProperty (ownerType : String) : String := ownerType ++ ".@@id"

/-- The text whose digest assigns an owner. -/
def hashInput (owner salt : String) : String := owner ++ "." ++ salt

/-- Every value of a list of shares is of the declared type. -/
def checkShares (declared : Option ValueType) : List Bucket → Except CompileError Unit
  | [] => .ok ()
  | bucket :: rest => do
    CompileError.checkDeclared declared bucket.value
    checkShares declared rest

/-- What a rule with one variant gives. -/
def compileFixed (declared : Option ValueType) (written : WrittenRule) :
    Except CompileError Outcome :=
  match written.value with
  | none => .error (.rule .noValue)
  | some value => do
    CompileError.checkDeclared declared value
    return .fixed value

/-- What a rule with several variants gives. Its name serves as salt if no salt
is written. -/
def compileShared (declared : Option ValueType) (written : WrittenRule) :
    Except CompileError Outcome :=
  match written.ownerType with
  | none => .error (.rule .noOwnerType)
  | some ownerType =>
    match written.salt.or written.id with
    | none => .error (.rule .noSalt)
    | some salt =>
      match written.distribution with
      | none => .error (.rule .noDistribution)
      | some distribution => do
        let distribution ← Distribution.compile declared distribution
        checkShares declared distribution.buckets
        return .shared ownerType salt distribution

/-- The rule that a document writes; the matcher is compiled first. -/
def compile (registry : Registry) (declared : Option ValueType) (written : WrittenRule) :
    Except CompileError Rule := do
  let matcher ← Matcher.compile registry written.matcher
  let outcome ← match written.variants with
    | .single => compileFixed declared written
    | .multiple => compileShared declared written
  return ⟨matcher, outcome⟩

/-- The rules of a list, all of which are read before the first is compiled. -/
def compileAll (registry : Registry) (declared : Option ValueType) (written : Json) :
    Except CompileError (List Rule) := do
  let rules ← (Shape.list WrittenRule.read written).mapError CompileError.shape
  rules.mapM (compile registry declared)

/-- What an outcome gives; nothing if the context does not name the owner. -/
def Outcome.run (lookup : Lookup) (hasher : Hasher) : Outcome → Evaluation (Option Json)
  | .fixed value => pure (some value)
  | .shared ownerType salt distribution => do
    let found ← Evaluation.ask lookup (ownerProperty ownerType)
    match found.bind Json.text? with
    | none => pure none
    | some owner => do
      let digest ← Evaluation.digest hasher (hashInput owner salt)
      pure (distribution.pick digest.bucket)

/-- What a rule gives to a context; nothing if it does not match. -/
def run (lookup : Lookup) (hasher : Hasher) (rule : Rule) : Evaluation (Option Json) := do
  let matched ← rule.matcher.run lookup
  if matched then Outcome.run lookup hasher rule.outcome else pure none

/-- What the first rule of a list gives that gives anything. -/
def runFirst (lookup : Lookup) (hasher : Hasher) : List Rule → Evaluation (Option Json)
  | [] => pure none
  | rule :: rest => do
    let hit ← rule.run lookup hasher
    match hit with
    | some value => pure (some value)
    | none => runFirst lookup hasher rest

/-- A list of rules gives what its front gives, or else what its back gives. -/
theorem runFirst_append (lookup : Lookup) (hasher : Hasher) (front back : List Rule) :
    (runFirst lookup hasher (front ++ back)).result =
      match (runFirst lookup hasher front).result with
      | .ok none => (runFirst lookup hasher back).result
      | decided => decided := by
  induction front with
  | nil => rfl
  | cons rule rest ih =>
    simp only [List.cons_append, runFirst]
    cases hrun : (rule.run lookup hasher).result with
    | error error => rw [Evaluation.bind_of_error hrun, Evaluation.bind_of_error hrun]
    | ok hit =>
      rw [Evaluation.bind_of_ok hrun, Evaluation.bind_of_ok hrun]
      cases hit with
      | some value => rfl
      | none => exact ih

end Rule

end Rulebook
