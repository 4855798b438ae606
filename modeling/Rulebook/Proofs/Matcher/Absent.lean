import Rulebook.Proofs.Json.Parts
import Rulebook.Proofs.Matcher.Reading

/-!
# Conditions on an absent property

A property without a value is tested as null, which no operator on texts and no comparer can
read. So a condition holds for it only by a negation, by a null among its literals or as a
conjunction of nothing; any other condition does not hold, at whatever depth it stands.
-/

namespace Rulebook

namespace Verdict

variable {tests : List Verdict}

/-- Tests of which none holds do not all hold, if there is one. -/
theorem all_of_forall_false (hsome : tests ≠ []) (h : ∀ test ∈ tests, test = .ok false) :
    all tests = .ok false := by
  cases tests with
  | nil => exact absurd rfl hsome
  | cons first rest =>
    rw [all, h first List.mem_cons_self]
    rfl

/-- No test holds if every one does not. -/
theorem any_of_forall_false (h : ∀ test ∈ tests, test = .ok false) : any tests = .ok false := by
  induction tests with
  | nil => rfl
  | cons first rest ih =>
    obtain ⟨hfirst, hrest⟩ := List.forall_mem_cons.mp h
    rw [any, hfirst, ih hrest]
    rfl

end Verdict

namespace Condition

/-- A condition that asks for something: it has no negation, no literal null where null would
equal it, and no conjunction of nothing. -/
structure IsPositive (condition : Json) : Prop where
  /-- It is not null itself. -/
  ne_null : condition ≠ .null
  /-- Nothing in it is negated. -/
  no_not : ∀ argument, ¬ Json.HasField "$not" argument condition
  /-- Nothing in it asks for a difference. -/
  no_ne : ∀ literal, ¬ Json.HasField "$ne" literal condition
  /-- No conjunction in it is an empty list. -/
  no_empty_list : ¬ Json.HasField "$and" (.array []) condition
  /-- No conjunction in it is an empty object. -/
  no_empty_object : ¬ Json.HasField "$and" (.object []) condition
  /-- Nothing in it asks for equality with null. -/
  no_eq_null : ¬ Json.HasField "$eq" .null condition
  /-- Null is in none of its lists, be they of literals or of conditions. -/
  no_null_item : ¬ Json.HasItem .null condition

/-- A condition that only a value can meet: it asks for something, and null is no bound in
it, which null itself would keep to. -/
structure NeedsValue (condition : Json) : Prop extends IsPositive condition where
  /-- Null is no lower bound in it. -/
  no_ge_null : ¬ Json.HasField "$ge" .null condition
  /-- Null is no upper bound in it. -/
  no_le_null : ¬ Json.HasField "$le" .null condition

/-- A part of such a condition is one too, if it is not null. -/
theorem NeedsValue.of_part {condition part : Json} (hneeds : NeedsValue condition)
    (hpart : Json.PartOf part condition) (hnull : part ≠ .null) : NeedsValue part where
  ne_null := hnull
  no_not argument h := hneeds.no_not argument (h.of_part hpart)
  no_ne literal h := hneeds.no_ne literal (h.of_part hpart)
  no_empty_list h := hneeds.no_empty_list (h.of_part hpart)
  no_empty_object h := hneeds.no_empty_object (h.of_part hpart)
  no_eq_null h := hneeds.no_eq_null (h.of_part hpart)
  no_null_item h := hneeds.no_null_item (h.of_part hpart)
  no_ge_null h := hneeds.no_ge_null (h.of_part hpart)
  no_le_null h := hneeds.no_le_null (h.of_part hpart)

section Literals

variable {comparer : Option Comparer} {literal : Json}

/-- Null cannot be compared with any other literal. -/
theorem order?_null (h : literal ≠ .null) : Coercion.order? .null literal = none := by
  cases literal with
  | null => exact absurd rfl h
  | bool _ | number _ | string _ => rfl
  | array _ | object _ => simp [Coercion.order?, Json.same]

/-- Null is unequal to any other literal, and in no other relation to it. -/
theorem compareHolds_null (relation : Relation) (comparer : Option Comparer)
    (h : literal ≠ .null) :
    compareHolds relation literal comparer .null = .ok (relation == .ne) := by
  cases comparer with
  | none => rw [compareHolds, coercedHolds_eq, order?_null h, Option.elim_none]
  | some _ => rfl

/-- Null is in the relations to null in which equal values are, unless a comparer is asked. -/
theorem compareHolds_null_null (relation : Relation) :
    compareHolds relation .null none .null = .ok (relation.holds .eq) := by
  rw [compareHolds, coercedHolds_eq]
  rfl

/-- Null is not among other literals. -/
theorem amongHolds_null {literals : List Json} (h : .null ∉ literals) :
    amongHolds comparer .null literals = .ok false := by
  induction literals with
  | nil => rfl
  | cons literal rest ih =>
    obtain ⟨hliteral, hrest⟩ := not_or.mp (mt List.mem_cons.mpr h)
    rw [amongHolds, equalHolds_eq, compareHolds_null .eq comparer (Ne.symm hliteral)]
    exact ih hrest

/-- A literal null compiles only if no comparer is in force. -/
theorem eq_none_of_checkLiteral_null {property : String}
    (h : checkLiteral property comparer .null = .ok ()) : comparer = none := by
  cases comparer with
  | none => rfl
  | some comparer =>
    obtain ⟨text, -, htext, -⟩ := exists_text_of_checkLiteral h
    cases htext

end Literals

variable {registry : Registry} {property : String}

/-- A comparison with a literal other than null holds for null only if it asks for a
difference, and one with null if it allows for equality. -/
theorem holds_null_of_compileComparison {comparer : Option Comparer} {relation : Relation}
    {literal : Json} {condition : Condition}
    (hcompile : compileComparison property comparer relation literal = .ok condition) :
    (literal ≠ .null → condition.holds .null = .ok (relation == .ne)) ∧
      (literal = .null → condition.holds .null = .ok (relation.holds .eq)) := by
  obtain ⟨hcheck, rfl⟩ := compileComparison_eq_ok hcompile
  refine ⟨compareHolds_null relation comparer, ?_⟩
  rintro rfl
  rw [eq_none_of_checkLiteral_null hcheck]
  exact compareHolds_null_null relation

/-- A test of the text does not hold for null if it holds for none. -/
theorem holds_null_of_compileText {key : String} {test : String → Condition} {literal : Json}
    {condition : Condition} (hcompile : compileText property key test literal = .ok condition)
    (htest : ∀ text, (test text).holds .null = .ok false) : condition.holds .null = .ok false := by
  obtain ⟨text, -, rfl⟩ := compileText_eq_ok hcompile
  exact htest _

/-- An operator with a literal or literals does not hold for null within a condition that needs
a value. -/
theorem holds_null_of_compileLiteral {comparer : Option Comparer} {operators : Dict Json}
    {argument : Json} {condition : Condition} (operator : LiteralOperator)
    (hcompile : compileLiteral property operator.key comparer argument operator = .ok condition)
    (hneeds : NeedsValue (.object operators)) (hmem : (operator.key, argument) ∈ operators) :
    condition.holds .null = .ok false := by
  have hfield : Json.HasField operator.key argument (.object operators) :=
    Json.hasField_object.mpr (Or.inl hmem)
  cases operator with
  | compares relation =>
    obtain ⟨hother, hnull⟩ := holds_null_of_compileComparison hcompile
    by_cases hliteral : argument = .null
    · rw [hnull hliteral]
      subst hliteral
      cases relation with
      | eq => exact absurd hfield hneeds.no_eq_null
      | ne => exact absurd hfield (hneeds.no_ne .null)
      | ge => exact absurd hfield hneeds.no_ge_null
      | le => exact absurd hfield hneeds.no_le_null
      | gt | lt => rfl
    · rw [hother hliteral]
      cases relation with
      | ne => exact absurd hfield (hneeds.no_ne argument)
      | eq | gt | ge | lt | le => rfl
  | among =>
    obtain ⟨literals, rfl, -, rfl⟩ := compileMembership_eq_ok hcompile
    refine amongHolds_null fun hitem => hneeds.no_null_item ?_
    exact Json.hasItem_object.mpr ⟨_, hmem, Json.hasItem_array.mpr (Or.inl hitem)⟩
  | contains | startsWith | endsWith => exact holds_null_of_compileText hcompile fun _ => rfl

/-- Null does not give the parts of a disjunction or a conjunction. -/
theorem ne_null_of_compileParts {comparer : Option Comparer} {key : String} {argument : Json}
    {parts : List Condition}
    (hcompile : compileParts registry property comparer key argument = .ok parts) :
    argument ≠ .null := by
  rintro rfl
  cases hcompile

-- What compiles to a part of the condition is a part of the value, which the recursion is on.
-- An operator is taken with the object around it, of which a condition that needs a value
-- speaks.
mutual

/-- A condition that needs a value does not hold for null. -/
theorem holds_null_of_compile {comparer : Option Comparer} {argument : Json}
    {condition : Condition} (hcompile : compile registry property comparer argument = .ok condition)
    (hneeds : NeedsValue argument) : condition.holds .null = .ok false := by
  cases argument with
  | null => exact absurd rfl hneeds.ne_null
  | array literals =>
    rw [compile] at hcompile
    obtain ⟨_, hliterals, -, rfl⟩ := compileMembership_eq_ok hcompile
    cases hliterals
    exact amongHolds_null fun hmem => hneeds.no_null_item (Json.hasItem_array.mpr (Or.inl hmem))
  | object operators =>
    obtain ⟨within, parts, -, hparts, hall⟩ := compile_object_eq_ok hcompile
    have hsome := exists_conjunction_iff.mp ⟨condition, hall⟩
    rw [holds_of_conjunction hall]
    refine Verdict.all_of_forall_false (mt List.map_eq_nil_iff.mp hsome) ?_
    refine List.forall_mem_map.mpr fun part hmem => ?_
    obtain ⟨key, inner, hinner, -, hpart⟩ := exists_operator_of_mem hparts hmem
    have hlt := Json.sizeOf_field_lt hinner
    exact holds_null_of_compileOperator hpart hneeds hinner
  | bool _ | number _ | string _ =>
    simp only [compile] at hcompile
    obtain ⟨-, rfl⟩ := compileComparison_eq_ok hcompile
    exact compareHolds_null .eq comparer hneeds.ne_null
termination_by (sizeOf argument, 0)

/-- No part of a disjunction or a conjunction that needs a value holds for null. -/
theorem holds_null_of_compileParts {comparer : Option Comparer} {key : String} {argument : Json}
    {parts : List Condition}
    (hcompile : compileParts registry property comparer key argument = .ok parts)
    (hneeds : NeedsValue argument) : ∀ part ∈ parts, part.holds .null = .ok false := by
  intro part hmem
  cases argument with
  | array arguments =>
    obtain ⟨inner, hinner, hpart⟩ := exists_condition_of_mem hcompile hmem
    have hlt := Json.sizeOf_item_lt hinner
    have hnull : inner ≠ .null := by
      rintro rfl
      exact hneeds.no_null_item (Json.hasItem_array.mpr (Or.inl hinner))
    exact holds_null_of_compile hpart (hneeds.of_part (.item hinner .self) hnull)
  | object operators =>
    obtain ⟨name, inner, hinner, -, hpart⟩ := exists_operator_of_mem hcompile hmem
    have hlt := Json.sizeOf_field_lt hinner
    exact holds_null_of_compileOperator hpart hneeds hinner
  | null | bool _ | number _ | string _ => cases hcompile
termination_by (sizeOf argument, 1)

/-- An operator does not hold for null within a condition that needs a value. -/
theorem holds_null_of_compileOperator {comparer : Option Comparer} {operators : Dict Json}
    {key : String} {argument : Json} {condition : Condition}
    (hcompile : compileOperator registry property comparer key argument = .ok condition)
    (hneeds : NeedsValue (.object operators)) (hmem : (key, argument) ∈ operators) :
    condition.holds .null = .ok false := by
  have hfield : Json.HasField key argument (.object operators) :=
    Json.hasField_object.mpr (Or.inl hmem)
  cases compiledOperator_of_compileOperator hcompile with
  | literal operator hliteral => exact holds_null_of_compileLiteral operator hliteral hneeds hmem
  | not hpart => exact absurd hfield (hneeds.no_not argument)
  | any hparts =>
    have hinner := hneeds.of_part (.field hmem .self) (ne_null_of_compileParts hparts)
    rw [holds, anyHold_eq]
    refine Verdict.any_of_forall_false (List.forall_mem_map.mpr ?_)
    exact holds_null_of_compileParts hparts hinner
  | all hparts =>
    have hinner := hneeds.of_part (.field hmem .self) (ne_null_of_compileParts hparts)
    have hlist : argument ≠ .array [] := by
      rintro rfl
      exact hneeds.no_empty_list hfield
    have hobject : argument ≠ .object [] := by
      rintro rfl
      exact hneeds.no_empty_object hfield
    have hsome := ne_nil_of_compileParts hparts hlist hobject
    rw [holds, allHold_eq]
    refine Verdict.all_of_forall_false (mt List.map_eq_nil_iff.mp hsome) ?_
    exact List.forall_mem_map.mpr (holds_null_of_compileParts hparts hinner)
termination_by (sizeOf argument, 2)

end

/-- No operator on texts holds for null. -/
theorem holds_null_of_textOperator {comparer : Option Comparer} {key : String}
    (hkey : key = "$contains" ∨ key = "$startswith" ∨ key = "$endswith") {literal : Json}
    {condition : Condition}
    (hcompile : compileOperator registry property comparer key literal = .ok condition) :
    condition.holds .null = .ok false := by
  have hliteral := compileOperator_literal registry property comparer literal
  rcases hkey with rfl | rfl | rfl
  · exact holds_null_of_compileText ((hliteral .contains).symm.trans hcompile) fun _ => rfl
  · exact holds_null_of_compileText ((hliteral .startsWith).symm.trans hcompile) fun _ => rfl
  · exact holds_null_of_compileText ((hliteral .endsWith).symm.trans hcompile) fun _ => rfl

end Condition

namespace Matcher

/-- Of an absent property no condition holds that needs a value, whatever comparers it names
and however deep its operators stand. A comparison with a literal other than null holds only if
it asks for a difference, and one with null if it allows for equality; no operator on texts
holds. -/
theorem eval_absent (registry : Registry) {property : String} {lookup : Lookup}
    (habsent : lookup property = none) :
    (∀ argument condition, Condition.compile registry property none argument = .ok condition →
      Condition.NeedsValue argument →
      (Matcher.property property condition).eval lookup = .ok false) ∧
    (∀ (relation : Relation) comparer literal condition,
      Condition.compileOperator registry property comparer relation.key literal = .ok condition →
      (literal ≠ .null →
        (Matcher.property property condition).eval lookup = .ok (relation == .ne)) ∧
      (literal = .null →
        (Matcher.property property condition).eval lookup = .ok (relation.holds .eq))) ∧
    ∀ key, key = "$contains" ∨ key = "$startswith" ∨ key = "$endswith" →
      ∀ comparer literal condition,
        Condition.compileOperator registry property comparer key literal = .ok condition →
        (Matcher.property property condition).eval lookup = .ok false := by
  have heval : ∀ condition, (Matcher.property property condition).eval lookup =
      condition.holds .null := by
    intro condition
    rw [eval_property, habsent, Option.getD_none]
  simp only [heval]
  refine ⟨fun argument condition hcompile hneeds =>
    Condition.holds_null_of_compile hcompile hneeds,
    fun relation comparer literal condition hcompile => ?_,
    fun key hkey comparer literal condition hcompile =>
      Condition.holds_null_of_textOperator hkey hcompile⟩
  have hcomparison :=
    Condition.compileOperator_literal registry property comparer literal (.compares relation)
  exact Condition.holds_null_of_compileComparison (hcomparison.symm.trans hcompile)

/-- An order of versions, some of which are listed, and a text. -/
theorem eval_absent_version :
    (fun _ => none : Lookup) "app" = none ∧
    (∃ condition, Condition.compile .builtin "app" none (.object [
        ("$compare", .string "version"), ("$lt", .string "9"),
        ("$or", .array [.object [("$ge", .string "1.2")], .array [.string "1.0"]])]) =
          .ok condition ∧
      (Matcher.property "app" condition).eval (fun _ => none) = .ok false) ∧
    (∃ condition, Condition.compileOperator .builtin "app" none Relation.gt.key .null =
        .ok condition ∧
      (Matcher.property "app" condition).eval (fun _ => none) = .ok false) ∧
    ∃ condition, Condition.compileOperator .builtin "app" none "$contains" (.string "") =
        .ok condition ∧
      (Matcher.property "app" condition).eval (fun _ => none) = .ok false := by
  have habsent : (fun _ => none : Lookup) "app" = none := rfl
  have hneeds : Condition.NeedsValue (.object [
      ("$compare", .string "version"), ("$lt", .string "9"),
      ("$or", .array [.object [("$ge", .string "1.2")], .array [.string "1.0"]])]) := by
    refine ⟨?_, ?_, ?_⟩
    · constructor <;>
        simp (disch := decide) [Json.not_hasField_of_isScalar, Json.not_hasItem_of_isScalar]
    · simp (disch := decide) [Json.not_hasField_of_isScalar]
    · simp (disch := decide) [Json.not_hasField_of_isScalar]
  obtain ⟨hconditions, hrelations, htexts⟩ := @eval_absent .builtin "app" (fun _ => none) habsent
  exact ⟨habsent, ⟨_, by rfl, hconditions _ _ (by rfl) hneeds⟩,
    ⟨_, by rfl, (hrelations .gt none .null _ (by rfl)).2 rfl⟩,
    ⟨_, by rfl, htexts "$contains" (Or.inl rfl) none (.string "") _ (by rfl)⟩⟩

/-- Null as a lower bound is met by an absent property, although nothing in the condition asks
for null or negates anything. -/
theorem exists_absent_match :
    Condition.IsPositive (.object [("$ge", .null)]) ∧
    ∃ condition,
      Condition.compile .builtin "app" none (.object [("$ge", .null)]) = .ok condition ∧
      (Matcher.property "app" condition).eval (fun _ => none) = .ok true := by
  refine ⟨?_, _, by rfl, by rfl⟩
  constructor <;>
    simp (disch := decide) [Json.not_hasField_of_isScalar, Json.not_hasItem_of_isScalar]

end Matcher

end Rulebook
