import Rulebook.Proofs.Matcher.Grammar
import Rulebook.Proofs.Matcher.Layers

/-!
# An object of operators under `$and` and `$or`

An object of operators may be given to `$and` and `$or` as it is, or to `$and` in a list. All
its operators hold under `$and` as they do without it, and some of them under `$or`. Only in a
list may the object name a comparer: given as it is, it must consist of operators.
-/

namespace Rulebook

namespace Condition

/-- Operators with the name of a comparer among them do not compile if none is passed over. -/
theorem compileOperators_eq_error {registry : Registry} {property : String}
    {comparer : Option Comparer} {operators : Dict Json}
    (hnamed : Dict.find? comparerKey operators ≠ none)
    (hoperators : ∀ key argument, (key, argument) ∈ operators → key ≠ comparerKey →
      IsOperator registry comparer key argument) :
    compileOperators registry property (fun _ => true) comparer operators =
      .error (.unknownOperator comparerKey) := by
  obtain ⟨name, hname⟩ := Option.ne_none_iff_exists'.mp hnamed
  rw [compileOperators_eq_mapM, List.filter_true]
  refine Except.mapM_eq_error (Dict.mem_of_find? hname)
    (compileOperator_comparerKey registry property comparer name) fun operator hmem => ?_
  by_cases hkey : operator.1 = comparerKey
  · left
    rw [hkey, compileOperator_comparerKey]
  · right
    exact (hoperators operator.1 operator.2 hmem hkey).exists_compiled

end Condition

namespace Matcher

variable {registry : Registry} {property : String}

section Forms

variable (registry) (hproperty : isOperatorKey property = false)

include hproperty

/-- An object of operators means the same in a list under `$and`. -/
theorem sameMeaning_listed (operators : Dict Json) :
    SameMeaning registry [(property, .object operators)]
      [(property, .object [("$and", .array [.object operators])])] := by
  have hother : compile registry
        [(property, .object [("$and", .array [.object operators])])] =
      (Condition.compile registry property none (.object operators)).map
        fun part => .property property (.all [part]) := by
    rw [compile_operator registry hproperty (by decide), Condition.compileOperator_all,
      Condition.compileParts, Condition.compileAll_eq_mapM, List.mapM_cons, List.mapM_nil,
      Except.map_map]
    cases Condition.compile registry property none (.object operators) <;> rfl
  refine .of_parts (compile_property registry hproperty _) hother fun part lookup => ?_
  rw [eval_property, eval_property, Condition.holds, Condition.allHold_eq, List.map_cons,
    List.map_nil, Verdict.all, Verdict.all, Verdict.and_true]

/-- An object of operators under `$and` or `$or` compiles from its operators. -/
theorem compile_operatorObject {key : String} {combine : List Condition → Condition}
    (hkey : key ≠ comparerKey)
    (hcombine : ∀ argument, Condition.compileOperator registry property none key argument =
      (Condition.compileParts registry property none key argument).map combine)
    (operators : Dict Json) :
    compile registry [(property, .object [(key, .object operators)])] =
      (Condition.compileOperators registry property (fun _ => true) none operators).map
        fun parts => .property property (combine parts) := by
  rw [compile_operator registry hproperty hkey, hcombine, Condition.compileParts, Except.map_map]

/-- Without the name of a comparer an object of operators of a property compiles to the
conjunction of its operators. -/
theorem exists_parts_of_compile {operators : Dict Json} {matcher : Matcher}
    (hnone : Dict.find? comparerKey operators = none)
    (hcompile : compile registry [(property, .object operators)] = .ok matcher) :
    ∃ parts, Condition.compileOperators registry property (fun _ => true) none operators =
        .ok parts ∧
      ∀ lookup, matcher.eval lookup =
        Verdict.all (parts.map (Condition.holds ((lookup property).getD .null))) := by
  rw [compile_property registry hproperty, Condition.compile_object_of_none hnone] at hcompile
  obtain ⟨condition, hcondition, rfl⟩ := Except.map_eq_ok_iff.mp hcompile
  obtain ⟨parts, hparts, hconjunction⟩ := Except.bind_eq_ok_iff.mp hcondition
  refine ⟨parts, hparts, fun lookup => ?_⟩
  rw [eval_property, Condition.holds_of_conjunction hconjunction]

/-- Operators that compile do so one by one as conditions of the property. -/
theorem forall₂_compile_single {operators : Dict Json} {parts : List Condition}
    (hnone : Dict.find? comparerKey operators = none)
    (hparts : Condition.compileOperators registry property (fun _ => true) none operators =
      .ok parts) :
    List.Forall₂ (fun operator single =>
      compile registry [(property, .object [operator])] = .ok single) operators
      (parts.map (.property property)) := by
  have hsingles := mapM_compileItem_operator registry hproperty "$or" hnone
  rw [List.mapM_map, hparts] at hsingles
  exact Except.mapM_eq_ok_iff.mp hsingles

/-- An object that names a comparer is refused under `$and` and `$or`, although it compiles
by itself. -/
theorem compile_operatorObject_eq_error {operators : Dict Json} {matcher : Matcher}
    (hnamed : Dict.find? comparerKey operators ≠ none)
    (hcompile : compile registry [(property, .object operators)] = .ok matcher)
    {key : String} (hkey : key = "$and" ∨ key = "$or") :
    compile registry [(property, .object [(key, .object operators)])] =
      .error (.unknownOperator comparerKey) := by
  rw [compile_property registry hproperty] at hcompile
  obtain ⟨condition, hcondition, -⟩ := Except.map_eq_ok_iff.mp hcompile
  have hoperators : ∀ inner argument, (inner, argument) ∈ operators → inner ≠ comparerKey →
      Condition.IsOperator registry none inner argument := by
    cases Condition.isCondition_of_compile hcondition with
    | scalar hliteral => cases hliteral.isScalar
    | object _ _ hoperators =>
      exact fun inner argument hmem hinner =>
        (hoperators inner argument hmem hinner).withoutComparer
  have hrefused : Condition.compileOperators registry property (fun _ => true) none operators =
      .error (.unknownOperator comparerKey) :=
    Condition.compileOperators_eq_error hnamed hoperators
  rcases hkey with rfl | rfl
  · rw [compile_operatorObject registry hproperty (by decide)
      (Condition.compileOperator_all registry property none), hrefused]
    rfl
  · rw [compile_operatorObject registry hproperty (by decide)
      (Condition.compileOperator_any registry property none), hrefused]
    rfl

end Forms

/-- What an object of operators of a property says when it is given to `$and` and `$or`. In a
list under `$and` it means what it means by itself. If it does not name a comparer, it means
the same as it is under `$and`, and under `$or` it says that some of its operators hold, which
are tried from the left. If it does, neither form compiles. -/
theorem objectForms_of_compile (hproperty : isOperatorKey property = false)
    {operators : Dict Json} {matcher : Matcher}
    (hcompile : compile registry [(property, .object operators)] = .ok matcher) :
    (∃ listed,
      compile registry [(property, .object [("$and", .array [.object operators])])] = .ok listed ∧
      ∀ lookup, listed.eval lookup = matcher.eval lookup) ∧
    (Dict.find? comparerKey operators = none →
      (∃ every,
        compile registry [(property, .object [("$and", .object operators)])] = .ok every ∧
        ∀ lookup, every.eval lookup = matcher.eval lookup) ∧
      ∃ some singles,
        compile registry [(property, .object [("$or", .object operators)])] = .ok some ∧
        List.Forall₂ (fun operator single =>
          compile registry [(property, .object [operator])] = .ok single) operators singles ∧
        ∀ lookup, some.eval lookup = Verdict.any (singles.map (eval lookup))) ∧
    (Dict.find? comparerKey operators ≠ none → ∀ key, key = "$and" ∨ key = "$or" →
      compile registry [(property, .object [(key, .object operators)])] =
        .error (.unknownOperator comparerKey)) := by
  refine ⟨?_, fun hnone => ?_, fun hnamed key hkey =>
    compile_operatorObject_eq_error registry hproperty hnamed hcompile hkey⟩
  · cases sameMeaning_listed registry hproperty operators with
    | refused hone _ =>
      rw [hcompile] at hone
      cases hone
    | compiled hone hother heval =>
      rw [hcompile] at hone
      cases hone
      exact ⟨_, hother, fun lookup => (heval lookup).symm⟩
  · obtain ⟨parts, hparts, hmatcher⟩ :=
      exists_parts_of_compile registry hproperty hnone hcompile
    refine ⟨⟨.property property (.all parts), ?_, fun lookup => ?_⟩,
      .property property (.any parts), parts.map (.property property), ?_,
      forall₂_compile_single registry hproperty hnone hparts, fun lookup => ?_⟩
    · rw [compile_operatorObject registry hproperty (by decide)
        (Condition.compileOperator_all registry property none), hparts]
      rfl
    · rw [eval_property, Condition.holds, Condition.allHold_eq, hmatcher]
    · rw [compile_operatorObject registry hproperty (by decide)
        (Condition.compileOperator_any registry property none), hparts]
      rfl
    · rw [eval_property, Condition.holds, Condition.anyHold_eq, map_eval_property]

/-- A range of numbers under `$and` and `$or`, and an order of versions under both. -/
theorem objectForms_of_compile_range :
    isOperatorKey "age" = false ∧
    (∃ matcher every some singles,
      compile .builtin [("age", .object [("$ge", .string "18"), ("$not", .string "65")])] =
        .ok matcher ∧
      compile .builtin [("age", .object
        [("$and", .object [("$ge", .string "18"), ("$not", .string "65")])])] = .ok every ∧
      (∀ lookup, every.eval lookup = matcher.eval lookup) ∧
      compile .builtin [("age", .object
        [("$or", .object [("$ge", .string "18"), ("$not", .string "65")])])] = .ok some ∧
      List.Forall₂ (fun operator single =>
        compile .builtin [("age", .object [operator])] = .ok single)
        [("$ge", .string "18"), ("$not", .string "65")] singles ∧
      ∀ lookup, some.eval lookup = Verdict.any (singles.map (eval lookup))) ∧
    ∃ matcher,
      compile .builtin [("age", .object
        [("$compare", .string "version"), ("$ge", .string "18")])] = .ok matcher ∧
      compile .builtin [("age", .object
        [("$or", .object [("$compare", .string "version"), ("$ge", .string "18")])])] =
          .error (.unknownOperator comparerKey) := by
  have hproperty : isOperatorKey "age" = false := by decide
  obtain ⟨matcher, hmatcher⟩ : ∃ matcher, compile .builtin
      [("age", .object [("$ge", .string "18"), ("$not", .string "65")])] = .ok matcher :=
    ⟨_, by rfl⟩
  obtain ⟨other, hother⟩ : ∃ matcher, compile .builtin [("age", .object
      [("$compare", .string "version"), ("$ge", .string "18")])] = .ok matcher := ⟨_, by rfl⟩
  obtain ⟨-, hforms, -⟩ := objectForms_of_compile hproperty hmatcher
  obtain ⟨-, -, hrefused⟩ := objectForms_of_compile hproperty hother
  obtain ⟨⟨every, hevery, hall⟩, some, singles, hsome, hsingles, hany⟩ := hforms rfl
  exact ⟨hproperty, ⟨matcher, every, some, singles, hmatcher, hevery, hall, hsome, hsingles, hany⟩,
    other, hother, hrefused nofun "$or" (Or.inr rfl)⟩

/-- An object with a comparer that compiles by itself and in a list under `$and`, and is
refused under `$and` and `$or` as it is. -/
theorem exists_refused_operatorObject :
    ∃ matcher listed,
      compile .builtin [("v", .object
        [("$compare", .string "version"), ("$ge", .string "2.0")])] = .ok matcher ∧
      compile .builtin [("v", .object [("$and", .array [.object
        [("$compare", .string "version"), ("$ge", .string "2.0")]])])] = .ok listed ∧
      ∀ key ∈ ["$and", "$or"],
        compile .builtin [("v", .object [(key, .object
          [("$compare", .string "version"), ("$ge", .string "2.0")])])] =
            .error (.unknownOperator "$compare") := by
  refine ⟨_, _, by rfl, by rfl, ?_⟩
  exact List.forall_mem_cons.mpr ⟨by rfl, List.forall_mem_singleton.mpr (by rfl)⟩

end Matcher

end Rulebook
