import Rulebook.CompileError
import Rulebook.Condition

/-!
# Conditions as documents write them

A condition is written as a scalar, which the value must equal, as an array,
which must have the value among its items, or as an object of operators that must
all hold. The key `$compare` of such an object names the comparer of its
comparisons and of those inside them, unless a nearer object names another one.
A comparer must understand every literal that it will be given.
-/

namespace Rulebook

/-- An operator with a literal or literals. -/
inductive LiteralOperator where
  /-- One of the six comparisons. -/
  | compares (relation : Relation)
  /-- Membership. -/
  | among
  /-- Occurrence of a text. -/
  | contains
  /-- A text at the beginning. -/
  | startsWith
  /-- A text at the end. -/
  | endsWith

/-- An operator of a condition. -/
inductive Operator where
  /-- An operator with a literal or literals. -/
  | literal (operator : LiteralOperator)
  /-- The negation of a condition. -/
  | not
  /-- Some of several conditions. -/
  | any
  /-- All of several conditions. -/
  | all

/-- The operator that a key names. -/
def Operator.ofKey? : String → Option Operator
  | "$eq" => some (.literal (.compares .eq))
  | "$ne" => some (.literal (.compares .ne))
  | "$gt" => some (.literal (.compares .gt))
  | "$ge" => some (.literal (.compares .ge))
  | "$lt" => some (.literal (.compares .lt))
  | "$le" => some (.literal (.compares .le))
  | "$in" => some (.literal .among)
  | "$contains" => some (.literal .contains)
  | "$startswith" => some (.literal .startsWith)
  | "$endswith" => some (.literal .endsWith)
  | "$not" => some .not
  | "$or" => some .any
  | "$and" => some .all
  | _ => none

/-- The key that names a comparer. -/
def comparerKey : String := "$compare"

/-- Whether a key has the form of an operator. -/
def isOperatorKey (key : String) : Bool := key.toList.head? == some '$'

namespace Condition

/-- A literal must be a scalar, and the comparer in force must understand it. -/
def checkLiteral (property : String) (comparer : Option Comparer) (literal : Json) :
    Except CompileError Unit :=
  if literal.isScalar then
    match comparer with
    | none => .ok ()
    | some comparer =>
      match literal.text? with
      | none => .error (.matcher comparer.name (.notOperand literal))
      | some text =>
        match comparer.compare text text with
        | .ok _ => .ok ()
        | .error error => .error (.operand error)
  else .error (.matcher property (.notScalar literal))

/-- All literals of a list, checked from the left. -/
def checkLiterals (property : String) (comparer : Option Comparer) :
    List Json → Except CompileError Unit
  | [] => .ok ()
  | literal :: rest => do
    checkLiteral property comparer literal
    checkLiterals property comparer rest

/-- A comparison with a literal. -/
def compileComparison (property : String) (comparer : Option Comparer) (relation : Relation)
    (literal : Json) : Except CompileError Condition := do
  checkLiteral property comparer literal
  return .compares relation literal comparer

/-- Membership in a list of literals. -/
def compileMembership (property : String) (comparer : Option Comparer) :
    Json → Except CompileError Condition
  | .array literals => do
    checkLiterals property comparer literals
    return .among literals comparer
  | _ => .error (.matcher property .notLiterals)

/-- A test of the text of a value; the given text is taken in lower case. -/
def compileText (property key : String) (test : String → Condition) (argument : Json) :
    Except CompileError Condition :=
  match argument.text? with
  | some text => .ok (test (Text.lowerCase text))
  | none => .error (.matcher property (.notText key))

/-- An operator with its literal or literals. Only comparisons and membership use
the comparer in force. -/
def compileLiteral (property key : String) (comparer : Option Comparer) (argument : Json) :
    LiteralOperator → Except CompileError Condition
  | .compares relation => compileComparison property comparer relation argument
  | .among => compileMembership property comparer argument
  | .contains => compileText property key .contains argument
  | .startsWith => compileText property key .startsWith argument
  | .endsWith => compileText property key .endsWith argument

/-- The comparer in force inside an object of operators: the one that it names, or
else the one around it. -/
def comparerWithin (registry : Registry) (property : String) (around : Option Comparer)
    (operators : Dict Json) : Except CompileError (Option Comparer) :=
  match Dict.find? comparerKey operators with
  | none => .ok around
  | some (.string name) =>
    match registry.get? name with
    | some comparer => .ok (some comparer)
    | none => .error (.unknownComparer name)
  | some _ => .error (.matcher property .notComparerName)

/-- The condition that every one of at least one condition holds; one alone stands
for itself. -/
def conjunction (property : String) : List Condition → Except CompileError Condition
  | [] => .error (.matcher property .noOperator)
  | [part] => .ok part
  | parts => .ok (.all parts)

/-- The error for a key that is no operator. -/
def unknownKey (property key : String) : CompileError :=
  if isOperatorKey key then .unknownOperator key else .matcher property (.unexpectedKey key)

mutual

/-- A condition on a property, with the comparer in force around it. -/
def compile (registry : Registry) (property : String) (comparer : Option Comparer) :
    Json → Except CompileError Condition
  | .array literals => compileMembership property comparer (.array literals)
  | .object operators => do
    let comparer ← comparerWithin registry property comparer operators
    let parts ← compileOperators registry property (· != comparerKey) comparer operators
    conjunction property parts
  | literal => compileComparison property comparer .eq literal

/-- The conditions of a list. -/
def compileAll (registry : Registry) (property : String) (comparer : Option Comparer) :
    List Json → Except CompileError (List Condition)
  | [] => .ok []
  | argument :: rest => do
    let part ← compile registry property comparer argument
    let parts ← compileAll registry property comparer rest
    return part :: parts

/-- An operator with its argument. Several conditions are given as a list or as an
object of operators; `$compare` is no operator of such an object. -/
def compileOperator (registry : Registry) (property : String) (comparer : Option Comparer)
    (key : String) (argument : Json) : Except CompileError Condition :=
  match Operator.ofKey? key with
  | none => .error (unknownKey property key)
  | some (.literal operator) => compileLiteral property key comparer argument operator
  | some .not =>
    match argument with
    | .array literals => do
      let part ← compileMembership property comparer (.array literals)
      return .not part
    | .object operators => do
      let comparer ← comparerWithin registry property comparer operators
      let parts ← compileOperators registry property (· != comparerKey) comparer operators
      let part ← conjunction property parts
      return .not part
    | literal => do
      let part ← compileComparison property comparer .eq literal
      return .not part
  | some .any =>
    match argument with
    | .array arguments => do
      let parts ← compileAll registry property comparer arguments
      return .any parts
    | .object operators => do
      let parts ← compileOperators registry property (fun _ => true) comparer operators
      return .any parts
    | _ => .error (.matcher property (.notConditions key))
  | some .all =>
    match argument with
    | .array arguments => do
      let parts ← compileAll registry property comparer arguments
      return .all parts
    | .object operators => do
      let parts ← compileOperators registry property (fun _ => true) comparer operators
      return .all parts
    | _ => .error (.matcher property (.notConditions key))

/-- The operators of an object in key order, those that `keep` leaves out being
passed over. -/
def compileOperators (registry : Registry) (property : String) (keep : String → Bool)
    (comparer : Option Comparer) : List (String × Json) → Except CompileError (List Condition)
  | [] => .ok []
  | (key, argument) :: rest =>
    if keep key then do
      let part ← compileOperator registry property comparer key argument
      let parts ← compileOperators registry property keep comparer rest
      return part :: parts
    else compileOperators registry property keep comparer rest

end

/-- `$not` takes any condition, read like the condition of a property. -/
theorem compileOperator_not (registry : Registry) (property : String)
    (comparer : Option Comparer) (argument : Json) :
    compileOperator registry property comparer "$not" argument =
      (compile registry property comparer argument).map .not := by
  have hkey : Operator.ofKey? "$not" = some .not := rfl
  unfold compileOperator
  rw [hkey]
  cases argument with
  | object operators =>
    simp only [compile]
    cases comparerWithin registry property comparer operators with
    | error error => rfl
    | ok within =>
      simp only [bind, Except.bind]
      cases compileOperators registry property (· != comparerKey) within operators with
      | error error => rfl
      | ok parts =>
        simp only
        cases conjunction property parts <;> rfl
  | array literals =>
    simp only [compile]
    cases compileMembership property comparer (.array literals) <;> rfl
  | null | bool _ | number _ | string _ =>
    simp only [compile]
    cases compileComparison property comparer .eq _ <;> rfl

end Condition

end Rulebook
