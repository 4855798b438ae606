import Rulebook.Proofs.Matcher.Reading

/-!
# Matchers and conditions combine alike

A negation, a disjunction or a conjunction may be written around the conditions of one
property or around matchers of that property. Both compile or are refused together, with the
same error, and say the same of every context, the error included that a comparer gives.
-/

namespace Rulebook

namespace Verdict

/-- No test holds exactly if all of their negations do, and the same test decides. -/
theorem not_any (tests : List Verdict) : not (any tests) = all (tests.map not) := by
  induction tests with
  | nil => rfl
  | cons first rest ih =>
    rw [any, List.map_cons, all, ← ih]
    cases first with
    | error error => rfl
    | ok held => cases held <;> rfl

end Verdict

namespace Matcher

/-- Two written matchers mean the same: both are refused with the same error, or both compile
and then say the same of every context. -/
inductive SameMeaning (registry : Registry) (one other : Dict Json) : Prop where
  /-- Both are refused. -/
  | refused {error : CompileError} (hone : compile registry one = .error error)
      (hother : compile registry other = .error error) : SameMeaning registry one other
  /-- Both compile. -/
  | compiled {first second : Matcher} (hone : compile registry one = .ok first)
      (hother : compile registry other = .ok second)
      (heval : ∀ lookup, first.eval lookup = second.eval lookup) :
      SameMeaning registry one other

variable {registry : Registry} {one other : Dict Json} {property : String}

/-- Two written matchers mean the same if they compile from the same parts to matchers that
say the same. -/
theorem SameMeaning.of_parts {α : Type} {parts : Except CompileError α} {first second : α → Matcher}
    (hone : compile registry one = parts.map first)
    (hother : compile registry other = parts.map second)
    (heval : ∀ value lookup, (first value).eval lookup = (second value).eval lookup) :
    SameMeaning registry one other := by
  cases parts with
  | error error => exact .refused hone hother
  | ok value => exact .compiled hone hother (heval value)

/-- The conditions of one property say of a context what they say of its value. -/
theorem map_eval_property (lookup : Lookup) (parts : List Condition) :
    (parts.map (Matcher.property property)).map (eval lookup) =
      parts.map (Condition.holds ((lookup property).getD .null)) := by
  rw [List.map_map]
  exact List.map_congr_left fun part _ => eval_property lookup property part

section Compiling

variable (registry) (hproperty : isOperatorKey property = false)

include hproperty

/-- Matchers of one property compile from their conditions. -/
theorem mapM_compileItem_property {α : Type} (key : String) (written : α → Json) (items : List α) :
    (items.map fun item => Json.object [(property, written item)]).mapM
        (compileItem registry key) =
      (items.mapM fun item => Condition.compile registry property none (written item)).map
        (List.map (Matcher.property property)) := by
  rw [List.mapM_map, ← Except.mapM_map]
  exact congrArg (items.mapM ·) (funext fun item => compile_property registry hproperty _)

/-- One operator on a property compiles to the condition of the property. -/
theorem compile_operator {key : String} (hkey : key ≠ comparerKey) (argument : Json) :
    compile registry [(property, .object [(key, argument)])] =
      (Condition.compileOperator registry property none key argument).map
        (.property property) := by
  rw [compile_property registry hproperty, Condition.compile_single registry property none hkey]

/-- A negated condition of a property means the negation of the property's matcher. -/
theorem sameMeaning_not (condition : Json) :
    SameMeaning registry [(property, .object [("$not", condition)])]
      [("$not", .object [(property, condition)])] := by
  have hone : compile registry [(property, .object [("$not", condition)])] =
      (Condition.compile registry property none condition).map
        fun part => .property property (.not part) := by
    rw [compile_operator registry hproperty (by decide), Condition.compileOperator_not,
      Except.map_map]
  have hother : compile registry [("$not", .object [(property, condition)])] =
      (Condition.compile registry property none condition).map
        fun part => .not (.property property part) := by
    rw [compile_single, compileEntry_not, compile_property registry hproperty, Except.map_map]
  refine .of_parts hone hother fun part lookup => ?_
  rw [eval_not, eval_property, eval_property, Condition.holds, Verdict.not]

/-- Conditions of a property combined by an operator mean matchers of the property combined
by it, if the operator compiles both from their parts and what it makes of them says the
same. -/
theorem sameMeaning_combined {key : String} (hkey : key ≠ comparerKey)
    {combine : List Condition → Condition} {combineMatchers : List Matcher → Matcher}
    (hconditions : ∀ argument, Condition.compileOperator registry property none key argument =
      (Condition.compileParts registry property none key argument).map combine)
    (hmatchers : ∀ items, compileEntry registry key (.array items) =
      (items.mapM (compileItem registry key)).map combineMatchers)
    (heval : ∀ parts lookup, (combine parts).holds ((lookup property).getD .null) =
      (combineMatchers (parts.map (.property property))).eval lookup)
    (conditions : List Json) :
    SameMeaning registry [(property, .object [(key, .array conditions)])]
      [(key, .array (conditions.map fun condition => .object [(property, condition)]))] := by
  have hone : compile registry [(property, .object [(key, .array conditions)])] =
      (conditions.mapM (Condition.compile registry property none)).map
        fun parts => .property property (combine parts) := by
    rw [compile_operator registry hproperty hkey, hconditions, Condition.compileParts,
      Condition.compileAll_eq_mapM, Except.map_map]
  have hother : compile registry
        [(key, .array (conditions.map fun condition => .object [(property, condition)]))] =
      (conditions.mapM (Condition.compile registry property none)).map
        fun parts => combineMatchers (parts.map (.property property)) := by
    rw [compile_single, hmatchers, mapM_compileItem_property registry hproperty, Except.map_map]
  refine .of_parts hone hother fun parts lookup => ?_
  rw [eval_property, heval]

/-- A disjunction of conditions of a property means that of matchers of the property. -/
theorem sameMeaning_any (conditions : List Json) :
    SameMeaning registry [(property, .object [("$or", .array conditions)])]
      [("$or", .array (conditions.map fun condition => .object [(property, condition)]))] := by
  refine sameMeaning_combined registry hproperty (by decide)
    (Condition.compileOperator_any registry property none) (compileEntry_any registry)
    (fun parts lookup => ?_) conditions
  rw [Condition.holds, Condition.anyHold_eq, eval_any, map_eval_property]

/-- A conjunction of conditions of a property means that of matchers of the property. -/
theorem sameMeaning_all (conditions : List Json) :
    SameMeaning registry [(property, .object [("$and", .array conditions)])]
      [("$and", .array (conditions.map fun condition => .object [(property, condition)]))] := by
  refine sameMeaning_combined registry hproperty (by decide)
    (Condition.compileOperator_all registry property none) (compileEntry_all registry)
    (fun parts lookup => ?_) conditions
  rw [Condition.holds, Condition.allHold_eq, eval_all, map_eval_property]

/-- Matchers with one operator of a property each compile from the operators. -/
theorem mapM_compileItem_operator (key : String) {operators : Dict Json}
    (hnone : Dict.find? comparerKey operators = none) :
    (operators.map fun operator => Json.object [(property, .object [operator])]).mapM
        (compileItem registry key) =
      (Condition.compileOperators registry property (fun _ => true) none operators).map
        (List.map (Matcher.property property)) := by
  have hsingle : ∀ operator ∈ operators,
      Condition.compile registry property none (.object [operator]) =
        Condition.compileOperator registry property none operator.1 operator.2 :=
    fun operator hmem => Condition.compile_single registry property none
      (Dict.ne_of_find?_eq_none hnone operator hmem) operator.2
  rw [mapM_compileItem_property registry hproperty, Except.mapM_congr hsingle,
    Condition.compileOperators_eq_mapM, List.filter_true]

/-- Some operators of a property without the name of a comparer mean the conjunction of the
matchers with one of them each. -/
theorem sameMeaning_operators {operators : Dict Json} (hsome : operators ≠ [])
    (hnone : Dict.find? comparerKey operators = none) :
    SameMeaning registry [(property, .object operators)]
      [("$and", .array (operators.map fun operator =>
        .object [(property, .object [operator])]))] := by
  have hone : compile registry [(property, .object operators)] =
      (Condition.compileOperators registry property (fun _ => true) none operators >>=
        Condition.conjunction property).map (.property property) := by
    rw [compile_property registry hproperty, Condition.compile_object_of_none hnone]
  have hother : compile registry
        [("$and", .array (operators.map fun operator =>
          .object [(property, .object [operator])]))] =
      (Condition.compileOperators registry property (fun _ => true) none operators).map
        fun parts => .all (parts.map (.property property)) := by
    rw [compile_single, compileEntry_all, mapM_compileItem_operator registry hproperty _ hnone,
      Except.map_map]
  cases hparts : Condition.compileOperators registry property (fun _ => true) none operators with
  | error error =>
    rw [hparts] at hone hother
    exact .refused hone hother
  | ok parts =>
    rw [hparts] at hone hother
    obtain ⟨operator, hmem⟩ := List.exists_mem_of_ne_nil operators hsome
    have hne := (Condition.ne_nil_iff_of_compileOperators hparts).mpr ⟨operator, hmem, rfl⟩
    obtain ⟨condition, hcondition⟩ := Condition.exists_conjunction_iff.mpr hne
    rw [Except.ok_bind, hcondition] at hone
    refine .compiled hone hother fun lookup => ?_
    rw [eval_property, Condition.holds_of_conjunction hcondition, eval_all, map_eval_property]

end Compiling

/-- A negated disjunction of matchers compiles from the matchers. -/
theorem compile_not_any (registry : Registry) (matchers : List (Dict Json)) :
    compile registry [("$not", .object [("$or", .array (matchers.map .object))])] =
      (matchers.mapM (compile registry)).map fun parts => .not (.any parts) := by
  rw [compile_single, compileEntry_not, compile_single, compileEntry_any, List.mapM_map,
    Except.map_map]
  rfl

/-- A conjunction of negated matchers compiles from the matchers. -/
theorem compile_all_not (registry : Registry) (matchers : List (Dict Json)) :
    compile registry
        [("$and", .array (matchers.map fun written => .object [("$not", .object written)]))] =
      (matchers.mapM (compile registry)).map fun parts => .all (parts.map .not) := by
  have hnegated : (compileItem registry "$and" ∘ fun written =>
      Json.object [("$not", .object written)]) =
        fun written => (compile registry written).map .not := by
    refine funext fun written => ?_
    rw [Function.comp_apply, compileItem, compile_single, compileEntry_not]
  rw [compile_single, compileEntry_all, List.mapM_map, hnegated, Except.mapM_map, Except.map_map]

/-- A negated disjunction of matchers says what the conjunction of their negations says. -/
theorem eval_not_any (lookup : Lookup) (parts : List Matcher) :
    eval lookup (.not (.any parts)) = eval lookup (.all (parts.map .not)) := by
  have hverdicts : (parts.map Matcher.not).map (eval lookup) =
      (parts.map (eval lookup)).map Verdict.not := by
    rw [List.map_map, List.map_map]
    exact List.map_congr_left fun part _ => eval_not lookup part
  rw [eval_not, eval_any, eval_all, Verdict.not_any, hverdicts]

/-- A negation, a disjunction and a conjunction of conditions of a property mean those of
matchers of the property, and several operators mean the conjunction of matchers with one of
them each: all are refused alike or say the same. A negated disjunction of matchers that
compile says what the conjunction of their negations says. -/
theorem layers_agree (registry : Registry) {property : String}
    (hproperty : isOperatorKey property = false) :
    (∀ condition, SameMeaning registry [(property, .object [("$not", condition)])]
      [("$not", .object [(property, condition)])]) ∧
    (∀ conditions, SameMeaning registry [(property, .object [("$or", .array conditions)])]
      [("$or", .array (conditions.map fun condition => .object [(property, condition)]))]) ∧
    (∀ conditions, SameMeaning registry [(property, .object [("$and", .array conditions)])]
      [("$and", .array (conditions.map fun condition => .object [(property, condition)]))]) ∧
    (∀ operators : Dict Json, operators ≠ [] → Dict.find? comparerKey operators = none →
      SameMeaning registry [(property, .object operators)]
        [("$and", .array (operators.map fun operator =>
          .object [(property, .object [operator])]))]) ∧
    ∀ matchers : List (Dict Json),
      (∀ written ∈ matchers, ∃ matcher, compile registry written = .ok matcher) →
      ∃ first second,
        compile registry [("$not", .object [("$or", .array (matchers.map .object))])] =
          .ok first ∧
        compile registry
          [("$and", .array (matchers.map fun written => .object [("$not", .object written)]))] =
          .ok second ∧
        ∀ lookup, first.eval lookup = second.eval lookup := by
  refine ⟨sameMeaning_not registry hproperty, sameMeaning_any registry hproperty,
    sameMeaning_all registry hproperty,
    fun operators hsome hnone => sameMeaning_operators registry hproperty hsome hnone,
    fun matchers haccepted => ?_⟩
  obtain ⟨parts, hparts⟩ := Except.exists_mapM_eq_ok_iff.mpr haccepted
  refine ⟨.not (.any parts), .all (parts.map .not), ?_, ?_, fun lookup => eval_not_any lookup parts⟩
  · rw [compile_not_any, hparts]
    rfl
  · rw [compile_all_not, hparts]
    rfl

/-- Two operators of a property, and two matchers of which one consults a comparer. -/
theorem layers_agree_version :
    isOperatorKey "os" = false ∧
      SameMeaning .builtin
        [("os", .object [("$ge", .string "7"), ("$not", .array [.null, .string "8"])])]
        [("$and", .array [.object [("os", .object [("$ge", .string "7")])],
          .object [("os", .object [("$not", .array [.null, .string "8"])])]])] ∧
      ∃ first second,
        compile .builtin [("$not", .object [("$or", .array
          [.object [("os", .object [("$compare", .string "version"), ("$lt", .string "1.2")])],
            .object []])])] = .ok first ∧
        compile .builtin [("$and", .array
          [.object [("$not", .object
            [("os", .object [("$compare", .string "version"), ("$lt", .string "1.2")])])],
            .object [("$not", .object [])]])] = .ok second ∧
        ∀ lookup, first.eval lookup = second.eval lookup := by
  have hproperty : isOperatorKey "os" = false := by decide
  obtain ⟨-, -, -, hoperators, hnegated⟩ := layers_agree .builtin hproperty
  refine ⟨hproperty, hoperators _ (List.cons_ne_nil _ _) rfl,
    hnegated [[("os", .object [("$compare", .string "version"), ("$lt", .string "1.2")])], []] ?_⟩
  refine List.forall_mem_cons.mpr ⟨⟨_, by rfl⟩, List.forall_mem_singleton.mpr ⟨_, by rfl⟩⟩

end Matcher

end Rulebook
