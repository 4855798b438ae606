import Rulebook.Proofs.Condition.Compiled
import Rulebook.Proofs.Json.Parts

/-!
# The grammar of conditions

Which values are conditions and which keys with which arguments are operators, said without
compiling them. Both depend on the comparer in force, which decides what is a literal. A
condition compiles exactly if it is one in this sense.
-/

namespace Rulebook

namespace Condition

/-- A literal is a scalar, and one that the comparer in force understands, if there is one:
it has a text, which the comparer can compare with itself. -/
structure IsLiteral (comparer : Option Comparer) (literal : Json) : Prop where
  /-- It is neither an array nor an object. -/
  isScalar : literal.isScalar = true
  /-- A comparer in force understands it. -/
  understood : ∀ within, comparer = some within →
    ∃ text order, literal.text? = some text ∧ within.compare text text = .ok order

/-- The comparer in force within an object of operators, given the one around it. -/
inductive InForce (registry : Registry) (around : Option Comparer) (operators : Dict Json) :
    Option Comparer → Prop where
  /-- An object without `$compare` leaves the one around it. -/
  | around (hnone : Dict.find? comparerKey operators = none) :
      InForce registry around operators around
  /-- `$compare` replaces it by the comparer registered under a name. -/
  | named {name : String} {comparer : Comparer}
      (hname : Dict.find? comparerKey operators = some (.string name))
      (hcomparer : registry.get? name = some comparer) :
      InForce registry around operators (some comparer)

mutual

/-- A value is a condition, with a comparer in force around it. -/
inductive IsCondition (registry : Registry) : Option Comparer → Json → Prop where
  /-- A scalar is a literal. -/
  | scalar {comparer : Option Comparer} {literal : Json} (hliteral : IsLiteral comparer literal) :
      IsCondition registry comparer literal
  /-- An array is a list of literals. -/
  | listed {comparer : Option Comparer} {literals : List Json}
      (hliterals : ∀ literal ∈ literals, IsLiteral comparer literal) :
      IsCondition registry comparer (.array literals)
  /-- An object has at least one key beside `$compare`, and every such key is an operator
  with its argument. -/
  | object {comparer within : Option Comparer} {operators : Dict Json}
      (hwithin : InForce registry comparer operators within)
      (hsome : ∃ entry ∈ operators, entry.1 ≠ comparerKey)
      (hoperators : ∀ key argument, (key, argument) ∈ operators → key ≠ comparerKey →
        IsOperator registry within key argument) :
      IsCondition registry comparer (.object operators)

/-- A key with its argument is an operator, with a comparer in force around it. -/
inductive IsOperator (registry : Registry) : Option Comparer → String → Json → Prop where
  /-- The six comparisons take a literal. -/
  | compares {comparer : Option Comparer} {literal : Json} (relation : Relation)
      (hliteral : IsLiteral comparer literal) :
      IsOperator registry comparer relation.key literal
  /-- `$in` takes a list of literals. -/
  | among {comparer : Option Comparer} {literals : List Json}
      (hliterals : ∀ literal ∈ literals, IsLiteral comparer literal) :
      IsOperator registry comparer "$in" (.array literals)
  /-- The tests of the text take a value with a text: a text, a number or a truth value. -/
  | text {comparer : Option Comparer} {key : String} {argument : Json} {text : String}
      (hkey : key = "$contains" ∨ key = "$startswith" ∨ key = "$endswith")
      (htext : argument.text? = some text) : IsOperator registry comparer key argument
  /-- `$not` takes a condition. -/
  | not {comparer : Option Comparer} {argument : Json}
      (hcondition : IsCondition registry comparer argument) :
      IsOperator registry comparer "$not" argument
  /-- `$or` and `$and` take a list of conditions. -/
  | conditions {comparer : Option Comparer} {key : String} {arguments : List Json}
      (hkey : key = "$or" ∨ key = "$and")
      (hconditions : ∀ argument ∈ arguments, IsCondition registry comparer argument) :
      IsOperator registry comparer key (.array arguments)
  /-- `$or` and `$and` take an object whose keys are all operators. -/
  | operators {comparer : Option Comparer} {key : String} {operators : Dict Json}
      (hkey : key = "$or" ∨ key = "$and")
      (hoperators : ∀ inner argument, (inner, argument) ∈ operators →
        IsOperator registry comparer inner argument) :
      IsOperator registry comparer key (.object operators)

end

variable {registry : Registry} {property : String} {comparer : Option Comparer}

/-- A literal passes the check exactly if it is one under the comparer in force. -/
theorem checkLiteral_eq_ok_iff {literal : Json} :
    checkLiteral property comparer literal = .ok () ↔ IsLiteral comparer literal := by
  constructor
  · intro h
    refine ⟨?_, ?_⟩
    · unfold checkLiteral at h
      split_ifs at h with hscalar
      exact hscalar
    · rintro within rfl
      exact exists_text_of_checkLiteral h
  · rintro ⟨hscalar, hunderstood⟩
    unfold checkLiteral
    rw [if_pos hscalar]
    cases comparer with
    | none => rfl
    | some within =>
      obtain ⟨text, order, htext, horder⟩ := hunderstood within rfl
      simp only [htext, horder]

/-- A list of literals passes the check exactly if each of them is one. -/
theorem checkLiterals_eq_ok_iff {literals : List Json} :
    checkLiterals property comparer literals = .ok () ↔
      ∀ literal ∈ literals, IsLiteral comparer literal := by
  constructor
  · intro h literal hmem
    exact checkLiteral_eq_ok_iff.mp (checkLiteral_of_checkLiterals h hmem)
  · intro h
    induction literals with
    | nil => rfl
    | cons literal rest ih =>
      obtain ⟨hliteral, hrest⟩ := List.forall_mem_cons.mp h
      rw [checkLiterals, checkLiteral_eq_ok_iff.mpr hliteral, Except.ok_bind]
      exact ih hrest

/-- The comparer within an object is the one in force there. -/
theorem comparerWithin_eq_ok_iff {operators : Dict Json} {within : Option Comparer} :
    comparerWithin registry property comparer operators = .ok within ↔
      InForce registry comparer operators within := by
  constructor
  · intro h
    unfold comparerWithin at h
    split at h
    · next hnone =>
      cases h
      exact .around hnone
    · next name hname =>
      split at h
      · next found hfound =>
        cases h
        exact .named hname hfound
      · cases h
    · cases h
  · intro h
    unfold comparerWithin
    cases h with
    | around hnone => rw [hnone]
    | named hname hcomparer =>
      rw [hname]
      dsimp only
      rw [hcomparer]

/-- An operator with a literal or literals that compiles is an operator. -/
theorem isOperator_of_compileLiteral {argument : Json} {condition : Condition}
    (operator : LiteralOperator)
    (h : compileLiteral property operator.key comparer argument operator = .ok condition) :
    IsOperator registry comparer operator.key argument := by
  cases operator with
  | compares relation =>
    obtain ⟨hcheck, -⟩ := compileComparison_eq_ok h
    exact .compares relation (checkLiteral_eq_ok_iff.mp hcheck)
  | among =>
    obtain ⟨literals, rfl, hcheck, -⟩ := compileMembership_eq_ok h
    exact .among (checkLiterals_eq_ok_iff.mp hcheck)
  | contains =>
    obtain ⟨text, htext, -⟩ := compileText_eq_ok h
    exact .text (Or.inl rfl) htext
  | startsWith =>
    obtain ⟨text, htext, -⟩ := compileText_eq_ok h
    exact .text (Or.inr (Or.inl rfl)) htext
  | endsWith =>
    obtain ⟨text, htext, -⟩ := compileText_eq_ok h
    exact .text (Or.inr (Or.inr rfl)) htext

/-- A comparison compiles with a literal. -/
theorem exists_compileComparison {literal : Json} (relation : Relation)
    (hliteral : IsLiteral comparer literal) :
    ∃ condition, compileComparison property comparer relation literal = .ok condition := by
  refine ⟨.compares relation literal comparer, ?_⟩
  rw [compileComparison, checkLiteral_eq_ok_iff.mpr hliteral]
  rfl

/-- Membership compiles with a list of literals. -/
theorem exists_compileMembership {literals : List Json}
    (hliterals : ∀ literal ∈ literals, IsLiteral comparer literal) :
    ∃ condition, compileMembership property comparer (.array literals) = .ok condition := by
  refine ⟨.among literals comparer, ?_⟩
  rw [compileMembership, checkLiterals_eq_ok_iff.mpr hliterals]
  rfl

/-- A test of the text compiles with a text. -/
theorem exists_compileText {key text : String} (test : String → Condition) {argument : Json}
    (htext : argument.text? = some text) :
    ∃ condition, compileText property key test argument = .ok condition := by
  unfold compileText
  rw [htext]
  exact ⟨_, rfl⟩

/-- An operator compiles with the literal or literals that it compiles with by itself. -/
theorem exists_compileOperator_literal {argument : Json} (operator : LiteralOperator)
    (h : ∃ condition,
      compileLiteral property operator.key comparer argument operator = .ok condition) :
    ∃ condition,
      compileOperator registry property comparer operator.key argument = .ok condition := by
  rw [compileOperator_literal]
  exact h

/-- `$or` and `$and` compile with parts that compile. -/
theorem exists_compileOperator_of_parts {key : String} (hkey : key = "$or" ∨ key = "$and")
    {argument : Json} {parts : List Condition}
    (hparts : compileParts registry property comparer key argument = .ok parts) :
    ∃ condition, compileOperator registry property comparer key argument = .ok condition := by
  rcases hkey with rfl | rfl
  · refine ⟨.any parts, ?_⟩
    rw [compileOperator_any, hparts]
    rfl
  · refine ⟨.all parts, ?_⟩
    rw [compileOperator_all, hparts]
    rfl

-- What compiles is in the grammar, by recursion on the value that is compiled.
mutual

/-- What compiles as a condition is one. -/
theorem isCondition_of_compile {comparer : Option Comparer} {argument : Json}
    {condition : Condition} (h : compile registry property comparer argument = .ok condition) :
    IsCondition registry comparer argument := by
  cases argument with
  | array literals =>
    rw [compile] at h
    obtain ⟨found, hfound, hcheck, -⟩ := compileMembership_eq_ok h
    cases hfound
    exact .listed (checkLiterals_eq_ok_iff.mp hcheck)
  | object operators =>
    obtain ⟨within, parts, hwithin, hparts, hall⟩ := compile_object_eq_ok h
    refine .object (comparerWithin_eq_ok_iff.mp hwithin) ?_ fun key inner hmem hkey => ?_
    · have hne := exists_conjunction_iff.mp ⟨condition, hall⟩
      obtain ⟨entry, hmem, hkeep⟩ := (ne_nil_iff_of_compileOperators hparts).mp hne
      exact ⟨entry, hmem, bne_iff_ne.mp hkeep⟩
    · have hlt := Json.sizeOf_field_lt hmem
      obtain ⟨part, hpart⟩ := exists_of_compileOperators hparts hmem (bne_iff_ne.mpr hkey)
      exact isOperator_of_compileOperator hpart
  | null | bool _ | number _ | string _ =>
    simp only [compile] at h
    obtain ⟨hcheck, -⟩ := compileComparison_eq_ok h
    exact .scalar (checkLiteral_eq_ok_iff.mp hcheck)
termination_by (sizeOf argument, 0)

/-- The parts that compile of `$or` and `$and` are conditions or operators. -/
theorem isOperator_of_compileParts {comparer : Option Comparer} {key : String}
    (hkey : key = "$or" ∨ key = "$and") {argument : Json} {parts : List Condition}
    (h : compileParts registry property comparer key argument = .ok parts) :
    IsOperator registry comparer key argument := by
  cases argument with
  | array arguments =>
    refine .conditions hkey fun inner hmem => ?_
    have hlt := Json.sizeOf_item_lt hmem
    obtain ⟨part, hpart⟩ := exists_of_compileAll h hmem
    exact isCondition_of_compile hpart
  | object operators =>
    refine .operators hkey fun name inner hmem => ?_
    have hlt := Json.sizeOf_field_lt hmem
    obtain ⟨part, hpart⟩ := exists_of_compileOperators h hmem rfl
    exact isOperator_of_compileOperator hpart
  | null | bool _ | number _ | string _ => cases h
termination_by (sizeOf argument, 1)

/-- What compiles as an operator is one. -/
theorem isOperator_of_compileOperator {comparer : Option Comparer} {key : String}
    {argument : Json} {condition : Condition}
    (h : compileOperator registry property comparer key argument = .ok condition) :
    IsOperator registry comparer key argument := by
  cases compiledOperator_of_compileOperator h with
  | literal operator hliteral => exact isOperator_of_compileLiteral operator hliteral
  | not hpart => exact .not (isCondition_of_compile hpart)
  | any hparts => exact isOperator_of_compileParts (Or.inl rfl) hparts
  | all hparts => exact isOperator_of_compileParts (Or.inr rfl) hparts
termination_by (sizeOf argument, 2)

end

-- What is in the grammar compiles, by recursion on how it is derived.
mutual

/-- A condition compiles. -/
theorem IsCondition.exists_compiled {comparer : Option Comparer} {argument : Json} :
    IsCondition registry comparer argument →
      ∃ condition, compile registry property comparer argument = .ok condition
  | .scalar hliteral => by
    rw [compile_of_isScalar hliteral.isScalar]
    exact exists_compileComparison .eq hliteral
  | .listed hliterals => by
    rw [compile]
    exact exists_compileMembership hliterals
  | .object hwithin hsome hoperators => by
    obtain ⟨parts, hparts⟩ := exists_compileOperators_iff.mpr fun key argument hmem hkey =>
      (hoperators key argument hmem (bne_iff_ne.mp hkey)).exists_compiled
    obtain ⟨entry, hmem, hkey⟩ := hsome
    have hne := (ne_nil_iff_of_compileOperators hparts).mpr ⟨entry, hmem, bne_iff_ne.mpr hkey⟩
    obtain ⟨condition, hcondition⟩ := exists_conjunction_iff.mpr hne
    refine ⟨condition, ?_⟩
    rw [compile, comparerWithin_eq_ok_iff.mpr hwithin, Except.ok_bind, hparts, Except.ok_bind]
    exact hcondition

/-- An operator compiles. -/
theorem IsOperator.exists_compiled {comparer : Option Comparer} {key : String}
    {argument : Json} :
    IsOperator registry comparer key argument →
      ∃ condition, compileOperator registry property comparer key argument = .ok condition
  | .compares relation hliteral =>
    exists_compileOperator_literal (.compares relation)
      (exists_compileComparison relation hliteral)
  | .among hliterals =>
    exists_compileOperator_literal .among (exists_compileMembership hliterals)
  | .text hkey htext => by
    rcases hkey with rfl | rfl | rfl
    · exact exists_compileOperator_literal .contains (exists_compileText .contains htext)
    · exact exists_compileOperator_literal .startsWith (exists_compileText .startsWith htext)
    · exact exists_compileOperator_literal .endsWith (exists_compileText .endsWith htext)
  | .not hcondition => by
    obtain ⟨part, hpart⟩ := hcondition.exists_compiled
    refine ⟨.not part, ?_⟩
    rw [compileOperator_not, hpart]
    rfl
  | .conditions hkey hconditions => by
    obtain ⟨parts, hparts⟩ := exists_compileAll_iff.mpr fun argument hmem =>
      (hconditions argument hmem).exists_compiled
    exact exists_compileOperator_of_parts hkey hparts
  | .operators hkey hoperators => by
    obtain ⟨parts, hparts⟩ := exists_compileOperators_iff.mpr fun inner argument hmem _ =>
      (hoperators inner argument hmem).exists_compiled
    exact exists_compileOperator_of_parts hkey hparts

end

/-- A literal under a comparer is one without it. -/
theorem IsLiteral.withoutComparer {literal : Json} (h : IsLiteral comparer literal) :
    IsLiteral none literal :=
  ⟨h.isScalar, nofun⟩

-- A comparer in force only narrows what a literal is.
mutual

/-- A condition with a comparer in force is one without it. -/
theorem IsCondition.withoutComparer {comparer : Option Comparer} {argument : Json} :
    IsCondition registry comparer argument → IsCondition registry none argument
  | .scalar hliteral => .scalar hliteral.withoutComparer
  | .listed hliterals => .listed fun literal hmem => (hliterals literal hmem).withoutComparer
  | .object (.around hnone) hsome hoperators =>
    .object (.around hnone) hsome fun key argument hmem hkey =>
      (hoperators key argument hmem hkey).withoutComparer
  | .object (.named hname hcomparer) hsome hoperators =>
    .object (.named hname hcomparer) hsome hoperators

/-- An operator with a comparer in force is one without it. -/
theorem IsOperator.withoutComparer {comparer : Option Comparer} {key : String}
    {argument : Json} :
    IsOperator registry comparer key argument → IsOperator registry none key argument
  | .compares relation hliteral => .compares relation hliteral.withoutComparer
  | .among hliterals => .among fun literal hmem => (hliterals literal hmem).withoutComparer
  | .text hkey htext => .text hkey htext
  | .not hcondition => .not hcondition.withoutComparer
  | .conditions hkey hconditions => .conditions hkey fun argument hmem =>
    (hconditions argument hmem).withoutComparer
  | .operators hkey hoperators => .operators hkey fun inner argument hmem =>
    (hoperators inner argument hmem).withoutComparer

end

end Condition

end Rulebook
