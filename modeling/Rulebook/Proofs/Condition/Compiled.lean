import Rulebook.Condition.Compile
import Rulebook.Proofs.Success

/-!
# What a condition compiles to

A condition compiles when its parts do, and then it is made of what they compile to.
Each lemma here takes one form of a written condition apart in this way.
-/

namespace Rulebook

/-- The key of a comparison. -/
def Relation.key : Relation → String
  | .eq => "$eq"
  | .ne => "$ne"
  | .gt => "$gt"
  | .ge => "$ge"
  | .lt => "$lt"
  | .le => "$le"

/-- The key of an operator with a literal or literals. -/
def LiteralOperator.key : LiteralOperator → String
  | .compares relation => relation.key
  | .among => "$in"
  | .contains => "$contains"
  | .startsWith => "$startswith"
  | .endsWith => "$endswith"

/-- The key of an operator. -/
def Operator.key : Operator → String
  | .literal operator => operator.key
  | .not => "$not"
  | .any => "$or"
  | .all => "$and"

/-- An operator is named by its own key. -/
theorem Operator.ofKey?_key (operator : Operator) : ofKey? operator.key = some operator := by
  cases operator with
  | literal operator =>
    cases operator with
    | compares relation => cases relation <;> rfl
    | among | contains | startsWith | endsWith => rfl
  | not | any | all => rfl

/-- An operator is named by no other key. -/
theorem Operator.eq_key_of_ofKey? {key : String} {operator : Operator}
    (h : ofKey? key = some operator) : key = operator.key := by
  unfold ofKey? at h
  split at h
  all_goals cases h
  all_goals rfl

/-- The key that names a comparer is no operator's. -/
theorem Operator.key_ne_comparerKey (operator : Operator) : operator.key ≠ comparerKey := by
  intro hkey
  have hnone : ofKey? comparerKey = none := rfl
  rw [← hkey, ofKey?_key] at hnone
  cases hnone

namespace Condition

/-- A comparer in force compares the text of a literal that compiles with itself. -/
theorem exists_text_of_checkLiteral {property : String} {comparer : Comparer}
    {literal : Json} (h : checkLiteral property (some comparer) literal = .ok ()) :
    ∃ text order, literal.text? = some text ∧ comparer.compare text text = .ok order := by
  unfold checkLiteral at h
  split_ifs at h
  dsimp only at h
  split at h
  · cases h
  · next text htext =>
    split at h
    · next order horder => exact ⟨text, order, htext, horder⟩
    · cases h

/-- Every literal of a list that compiles does so itself. -/
theorem checkLiteral_of_checkLiterals {property : String} {comparer : Option Comparer}
    {literals : List Json} (h : checkLiterals property comparer literals = .ok ())
    {literal : Json} (hmem : literal ∈ literals) :
    checkLiteral property comparer literal = .ok () := by
  induction literals with
  | nil => exact absurd hmem List.not_mem_nil
  | cons first rest ih =>
    obtain ⟨_, hfirst, hrest⟩ := Except.bind_eq_ok_iff.mp h
    rcases List.mem_cons.mp hmem with rfl | hmem
    · exact hfirst
    · exact ih hrest hmem

/-- A comparison keeps its literal and the comparer in force. -/
theorem compileComparison_eq_ok {property : String} {comparer : Option Comparer}
    {relation : Relation} {literal : Json} {condition : Condition}
    (h : compileComparison property comparer relation literal = .ok condition) :
    checkLiteral property comparer literal = .ok () ∧
      condition = .compares relation literal comparer := by
  obtain ⟨_, hcheck, h⟩ := Except.bind_eq_ok_iff.mp h
  cases h
  exact ⟨hcheck, rfl⟩

/-- Membership keeps its literals and the comparer in force. -/
theorem compileMembership_eq_ok {property : String} {comparer : Option Comparer}
    {argument : Json} {condition : Condition}
    (h : compileMembership property comparer argument = .ok condition) :
    ∃ literals, argument = .array literals ∧
      checkLiterals property comparer literals = .ok () ∧
      condition = .among literals comparer := by
  unfold compileMembership at h
  split at h
  · next literals =>
    obtain ⟨_, hcheck, h⟩ := Except.bind_eq_ok_iff.mp h
    cases h
    exact ⟨literals, rfl, hcheck, rfl⟩
  · cases h

/-- A text test is given a text, and keeps it in lower case. -/
theorem compileText_eq_ok {property key : String} {test : String → Condition} {argument : Json}
    {condition : Condition} (h : compileText property key test argument = .ok condition) :
    ∃ text, argument.text? = some text ∧ condition = test (Text.lowerCase text) := by
  unfold compileText at h
  split at h
  · next text htext =>
    cases h
    exact ⟨text, htext, rfl⟩
  · cases h

/-- There is no condition of a list without one. -/
theorem conjunction_eq_ok {property : String} {parts : List Condition} {condition : Condition}
    (h : conjunction property parts = .ok condition) :
    parts = [condition] ∨ condition = .all parts := by
  unfold conjunction at h
  split at h
  · cases h
  · cases h
    exact Or.inl rfl
  · cases h
    exact Or.inr rfl

/-- A scalar compiles to a comparison. -/
theorem compile_of_isScalar {argument : Json} (h : argument.isScalar = true)
    (registry : Registry) (property : String) (comparer : Option Comparer) :
    compile registry property comparer argument =
      compileComparison property comparer .eq argument := by
  cases argument with
  | null | bool _ | number _ | string _ => simp only [compile]
  | array _ | object _ => cases h

/-- An object compiles to what all its operators compile to, with the comparer that it
names. -/
theorem compile_object_eq_ok {registry : Registry} {property : String}
    {comparer : Option Comparer} {operators : List (String × Json)} {condition : Condition}
    (h : compile registry property comparer (.object operators) = .ok condition) :
    ∃ within parts, comparerWithin registry property comparer operators = .ok within ∧
      compileOperators registry property (· != comparerKey) within operators = .ok parts ∧
      conjunction property parts = .ok condition := by
  rw [compile] at h
  obtain ⟨within, hwithin, h⟩ := Except.bind_eq_ok_iff.mp h
  obtain ⟨parts, hparts, h⟩ := Except.bind_eq_ok_iff.mp h
  exact ⟨within, parts, hwithin, hparts, h⟩

section

variable (registry : Registry) (property : String) (comparer : Option Comparer)

/-- The conditions of a list compile one by one. -/
theorem compileAll_eq_mapM (arguments : List Json) :
    compileAll registry property comparer arguments =
      arguments.mapM (compile registry property comparer) := by
  induction arguments with
  | nil =>
    rw [compileAll]
    rfl
  | cons argument rest ih =>
    rw [compileAll, List.mapM_cons, ih]

/-- The operators of an object that are not passed over compile one by one. -/
theorem compileOperators_eq_mapM (keep : String → Bool) (operators : List (String × Json)) :
    compileOperators registry property keep comparer operators =
      (operators.filter fun entry => keep entry.1).mapM fun entry =>
        compileOperator registry property comparer entry.1 entry.2 := by
  induction operators with
  | nil =>
    rw [compileOperators]
    rfl
  | cons entry rest ih =>
    obtain ⟨key, argument⟩ := entry
    rw [compileOperators, List.filter_cons]
    split_ifs
    · rw [List.mapM_cons, ih]
    · exact ih

/-- One operator alone stands for itself. -/
theorem compile_single {key : String} (hkey : key ≠ comparerKey) (argument : Json) :
    compile registry property comparer (.object [(key, argument)]) =
      compileOperator registry property comparer key argument := by
  have hwithin : comparerWithin registry property comparer [(key, argument)] = .ok comparer := by
    rw [comparerWithin, Dict.find?, if_neg hkey]
    rfl
  rw [compile, hwithin, Except.ok_bind, compileOperators, if_pos (bne_iff_ne.mpr hkey),
    compileOperators]
  cases compileOperator registry property comparer key argument <;> rfl

end

section

variable {registry : Registry} {property : String} {keep : String → Bool}
  {comparer : Option Comparer} {arguments : List Json} {operators : List (String × Json)}
  {parts : List Condition}

theorem exists_compileAll_iff :
    (∃ parts, compileAll registry property comparer arguments = .ok parts) ↔
      ∀ argument ∈ arguments,
        ∃ part, compile registry property comparer argument = .ok part := by
  rw [compileAll_eq_mapM, Except.exists_mapM_eq_ok_iff]

/-- The operators of an object that are not passed over compile exactly if each of them
does. -/
theorem exists_compileOperators_iff :
    (∃ parts, compileOperators registry property keep comparer operators = .ok parts) ↔
      ∀ key argument, (key, argument) ∈ operators → keep key = true →
        ∃ part, compileOperator registry property comparer key argument = .ok part := by
  rw [compileOperators_eq_mapM, Except.exists_mapM_eq_ok_iff]
  simp only [List.mem_filter, and_imp, Prod.forall]

theorem exists_of_compileAll
    (h : compileAll registry property comparer arguments = .ok parts) {argument : Json}
    (hmem : argument ∈ arguments) :
    ∃ part, compile registry property comparer argument = .ok part :=
  exists_compileAll_iff.mp ⟨parts, h⟩ argument hmem

/-- Every operator of an object that compiles does so itself if it is not passed
over. -/
theorem exists_of_compileOperators
    (h : compileOperators registry property keep comparer operators = .ok parts)
    {key : String} {argument : Json} (hmem : (key, argument) ∈ operators)
    (hkeep : keep key = true) :
    ∃ part, compileOperator registry property comparer key argument = .ok part :=
  exists_compileOperators_iff.mp ⟨parts, h⟩ key argument hmem hkeep

theorem exists_condition_of_mem
    (h : compileAll registry property comparer arguments = .ok parts) {part : Condition}
    (hmem : part ∈ parts) :
    ∃ argument ∈ arguments, compile registry property comparer argument = .ok part := by
  rw [compileAll_eq_mapM, Except.mapM_eq_ok_iff] at h
  exact h.exists_left hmem

/-- What the operators of an object compile to is what one of them compiles to that is not
passed over. -/
theorem exists_operator_of_mem
    (h : compileOperators registry property keep comparer operators = .ok parts)
    {part : Condition} (hmem : part ∈ parts) :
    ∃ key argument, (key, argument) ∈ operators ∧ keep key = true ∧
      compileOperator registry property comparer key argument = .ok part := by
  rw [compileOperators_eq_mapM, Except.mapM_eq_ok_iff] at h
  obtain ⟨⟨key, argument⟩, hentry, hpart⟩ := h.exists_left hmem
  obtain ⟨hentry, hkeep⟩ := List.mem_filter.mp hentry
  exact ⟨key, argument, hentry, hkeep, hpart⟩

/-- Operators compile to some conditions exactly if one of them is not passed over. -/
theorem ne_nil_iff_of_compileOperators
    (h : compileOperators registry property keep comparer operators = .ok parts) :
    parts ≠ [] ↔ ∃ entry ∈ operators, keep entry.1 = true := by
  rw [compileOperators_eq_mapM, Except.mapM_eq_ok_iff] at h
  have hlength := h.length_eq
  rw [← List.length_pos_iff, ← hlength, List.length_pos_iff, Ne, List.filter_eq_nil_iff]
  push Not
  exact Iff.rfl

/-- Conditions all hold as one condition exactly if there is one. -/
theorem exists_conjunction_iff :
    (∃ condition, conjunction property parts = .ok condition) ↔ parts ≠ [] := by
  cases parts with
  | nil => simp [conjunction]
  | cons part rest => cases rest <;> simp [conjunction]

/-- Without the name of a comparer every operator of an object is compiled, with the comparer
around it. -/
theorem compile_object_of_none (hnone : Dict.find? comparerKey operators = none) :
    compile registry property comparer (.object operators) =
      compileOperators registry property (fun _ => true) comparer operators >>=
        conjunction property := by
  have hwithin : comparerWithin registry property comparer operators = .ok comparer := by
    rw [comparerWithin, hnone]
  have hkept : operators.filter (fun entry => entry.1 != comparerKey) =
      operators.filter fun _ => true := by
    refine List.filter_congr fun entry hmem => ?_
    exact bne_iff_ne.mpr (Dict.ne_of_find?_eq_none hnone entry hmem)
  rw [compile, hwithin, Except.ok_bind, compileOperators_eq_mapM, compileOperators_eq_mapM, hkept]

end

/-- The parts of `$or` and `$and`, given as a list or as an object of operators. -/
def compileParts (registry : Registry) (property : String) (comparer : Option Comparer)
    (key : String) : Json → Except CompileError (List Condition)
  | .array arguments => compileAll registry property comparer arguments
  | .object operators => compileOperators registry property (fun _ => true) comparer operators
  | _ => .error (.matcher property (.notConditions key))

/-- `$or` and `$and` have parts if they are not given an empty list or object. -/
theorem ne_nil_of_compileParts {registry : Registry} {property key : String}
    {comparer : Option Comparer} {argument : Json} {parts : List Condition}
    (h : compileParts registry property comparer key argument = .ok parts)
    (hlist : argument ≠ .array []) (hobject : argument ≠ .object []) : parts ≠ [] := by
  rintro rfl
  cases argument with
  | array arguments =>
    rw [compileParts, compileAll_eq_mapM, Except.mapM_eq_ok_iff, List.forall₂_nil_right_iff] at h
    exact hlist (congrArg Json.array h)
  | object operators =>
    rw [compileParts, compileOperators_eq_mapM, List.filter_true, Except.mapM_eq_ok_iff,
      List.forall₂_nil_right_iff] at h
    exact hobject (congrArg Json.object h)
  | null | bool _ | number _ | string _ => cases h

section

variable (registry : Registry) (property : String) (comparer : Option Comparer) (argument : Json)

/-- An operator with a literal or literals compiles by itself. -/
theorem compileOperator_literal (operator : LiteralOperator) :
    compileOperator registry property comparer operator.key argument =
      compileLiteral property operator.key comparer argument operator := by
  have hkey : Operator.ofKey? operator.key = some (.literal operator) :=
    Operator.ofKey?_key (.literal operator)
  unfold compileOperator
  rw [hkey]

/-- `$or` compiles to some of what its parts compile to. -/
theorem compileOperator_any :
    compileOperator registry property comparer "$or" argument =
      (compileParts registry property comparer "$or" argument).map .any := by
  have hkey : Operator.ofKey? "$or" = some .any := rfl
  unfold compileOperator compileParts
  rw [hkey]
  cases argument <;> rfl

/-- `$and` compiles to all of what its parts compile to. -/
theorem compileOperator_all :
    compileOperator registry property comparer "$and" argument =
      (compileParts registry property comparer "$and" argument).map .all := by
  have hkey : Operator.ofKey? "$and" = some .all := rfl
  unfold compileOperator compileParts
  rw [hkey]
  cases argument <;> rfl

end

/-- How an operator with its argument was compiled. -/
inductive CompiledOperator (registry : Registry) (property : String) (comparer : Option Comparer)
    (argument : Json) : String → Condition → Prop where
  /-- By itself, with a literal or literals. -/
  | literal (operator : LiteralOperator) {condition : Condition}
      (hliteral : compileLiteral property operator.key comparer argument operator =
        .ok condition) :
      CompiledOperator registry property comparer argument operator.key condition
  /-- As the negation of a condition. -/
  | not {part : Condition} (hpart : compile registry property comparer argument = .ok part) :
      CompiledOperator registry property comparer argument "$not" (.not part)
  /-- As some of its parts. -/
  | any {parts : List Condition}
      (hparts : compileParts registry property comparer "$or" argument = .ok parts) :
      CompiledOperator registry property comparer argument "$or" (.any parts)
  /-- As all of its parts. -/
  | all {parts : List Condition}
      (hparts : compileParts registry property comparer "$and" argument = .ok parts) :
      CompiledOperator registry property comparer argument "$and" (.all parts)

/-- An operator that compiles was compiled in one of these ways. -/
theorem compiledOperator_of_compileOperator {registry : Registry} {property key : String}
    {comparer : Option Comparer} {argument : Json} {condition : Condition}
    (h : compileOperator registry property comparer key argument = .ok condition) :
    CompiledOperator registry property comparer argument key condition := by
  cases hoperator : Operator.ofKey? key with
  | none =>
    unfold compileOperator at h
    rw [hoperator] at h
    cases h
  | some operator =>
    have hkey := Operator.eq_key_of_ofKey? hoperator
    subst hkey
    cases operator with
    | literal operator =>
      rw [Operator.key, compileOperator_literal] at h
      exact .literal operator h
    | not =>
      rw [Operator.key, compileOperator_not] at h
      obtain ⟨part, hpart, rfl⟩ := Except.map_eq_ok_iff.mp h
      exact .not hpart
    | any =>
      rw [Operator.key, compileOperator_any] at h
      obtain ⟨parts, hparts, rfl⟩ := Except.map_eq_ok_iff.mp h
      exact .any hparts
    | all =>
      rw [Operator.key, compileOperator_all] at h
      obtain ⟨parts, hparts, rfl⟩ := Except.map_eq_ok_iff.mp h
      exact .all hparts

/-- `$or` and `$and` compile if their parts do. -/
theorem exists_parts_of_compileOperator {registry : Registry} {property key : String}
    {comparer : Option Comparer} {argument : Json} {condition : Condition}
    (hkey : key = "$or" ∨ key = "$and")
    (h : compileOperator registry property comparer key argument = .ok condition) :
    ∃ parts, compileParts registry property comparer key argument = .ok parts := by
  rcases hkey with rfl | rfl
  · rw [compileOperator_any] at h
    obtain ⟨parts, hparts, -⟩ := Except.map_eq_ok_iff.mp h
    exact ⟨parts, hparts⟩
  · rw [compileOperator_all] at h
    obtain ⟨parts, hparts, -⟩ := Except.map_eq_ok_iff.mp h
    exact ⟨parts, hparts⟩

/-- The name of a comparer is no operator. -/
theorem compileOperator_comparerKey (registry : Registry) (property : String)
    (comparer : Option Comparer) (argument : Json) :
    compileOperator registry property comparer comparerKey argument =
      .error (.unknownOperator comparerKey) := by
  have hkey : Operator.ofKey? comparerKey = none := rfl
  unfold compileOperator
  rw [hkey]
  rfl

/-- So it compiles to no condition. -/
theorem compileOperator_comparerKey_ne_ok {registry : Registry} {property : String}
    {comparer : Option Comparer} {argument : Json} {condition : Condition} :
    compileOperator registry property comparer comparerKey argument ≠ .ok condition := by
  rw [compileOperator_comparerKey]
  exact nofun

/-- Operators that compile although none is passed over name no comparer. -/
theorem find?_comparerKey_of_compileOperators {registry : Registry} {property : String}
    {comparer : Option Comparer} {operators : List (String × Json)} {parts : List Condition}
    (h : compileOperators registry property (fun _ => true) comparer operators = .ok parts) :
    Dict.find? comparerKey operators = none := by
  cases hname : Dict.find? comparerKey operators with
  | none => rfl
  | some name =>
    obtain ⟨part, hpart⟩ := exists_of_compileOperators h (Dict.mem_of_find? hname) rfl
    exact absurd hpart compileOperator_comparerKey_ne_ok

section Renaming

-- The name of the property stands in messages only, so the results of compiling are
-- compared here without their failures.
variable (registry : Registry) (one other : String)

section Parts

variable (comparer : Option Comparer)

theorem toOption_checkLiteral (literal : Json) :
    (checkLiteral one comparer literal).toOption =
      (checkLiteral other comparer literal).toOption := by
  unfold checkLiteral
  split_ifs <;> rfl

/-- The literals of a list are checked in the same way for every property. -/
theorem toOption_checkLiterals (literals : List Json) :
    (checkLiterals one comparer literals).toOption =
      (checkLiterals other comparer literals).toOption := by
  induction literals with
  | nil => rfl
  | cons literal rest ih =>
    simp only [checkLiterals, Except.toOption_bind, toOption_checkLiteral one other, ih]

/-- A comparison is the same for every property. -/
theorem toOption_compileComparison (relation : Relation) (literal : Json) :
    (compileComparison one comparer relation literal).toOption =
      (compileComparison other comparer relation literal).toOption := by
  simp only [compileComparison, Except.toOption_bind, toOption_checkLiteral one other]

/-- Membership is the same for every property. -/
theorem toOption_compileMembership (argument : Json) :
    (compileMembership one comparer argument).toOption =
      (compileMembership other comparer argument).toOption := by
  cases argument with
  | array literals =>
    simp only [compileMembership, Except.toOption_bind, toOption_checkLiterals one other]
  | null | bool _ | number _ | string _ | object _ => rfl

/-- An operator with its literal or literals is the same for every property. -/
theorem toOption_compileLiteral (key : String) (argument : Json) (operator : LiteralOperator) :
    (compileLiteral one key comparer argument operator).toOption =
      (compileLiteral other key comparer argument operator).toOption := by
  have htext : ∀ test, (compileText one key test argument).toOption =
      (compileText other key test argument).toOption := by
    intro test
    unfold compileText
    cases argument.text? <;> rfl
  cases operator with
  | compares relation => exact toOption_compileComparison one other comparer relation argument
  | among => exact toOption_compileMembership one other comparer argument
  | contains | startsWith | endsWith => exact htext _

/-- The comparer within an object is the same for every property. -/
theorem toOption_comparerWithin (operators : Dict Json) :
    (comparerWithin registry one comparer operators).toOption =
      (comparerWithin registry other comparer operators).toOption := by
  unfold comparerWithin
  split
  · rfl
  · split <;> rfl
  · rfl

/-- A conjunction is the same for every property. -/
theorem toOption_conjunction (parts : List Condition) :
    (conjunction one parts).toOption = (conjunction other parts).toOption := by
  unfold conjunction
  split <;> rfl

end Parts

mutual

/-- A condition compiles to the same for every property. -/
theorem toOption_compile (comparer : Option Comparer) (argument : Json) :
    (compile registry one comparer argument).toOption =
      (compile registry other comparer argument).toOption := by
  cases argument with
  | array literals =>
    simp only [compile]
    exact toOption_compileMembership one other comparer _
  | object operators =>
    simp only [compile, Except.toOption_bind, toOption_comparerWithin registry one other,
      toOption_conjunction one other]
    refine congrArg _ (funext fun within => ?_)
    rw [toOption_compileOperators]
  | null | bool _ | number _ | string _ =>
    simp only [compile]
    exact toOption_compileComparison one other comparer .eq _
termination_by (sizeOf argument, 1)

/-- So do the conditions of a list. -/
theorem toOption_compileAll (comparer : Option Comparer) (arguments : List Json) :
    (compileAll registry one comparer arguments).toOption =
      (compileAll registry other comparer arguments).toOption := by
  match arguments with
  | [] => rfl
  | argument :: rest =>
    simp only [compileAll, Except.toOption_bind]
    rw [toOption_compile comparer argument, toOption_compileAll comparer rest]
termination_by (sizeOf arguments, 0)

/-- So do the parts of `$or` and `$and`. -/
theorem toOption_compileParts (comparer : Option Comparer) (key : String) (argument : Json) :
    (compileParts registry one comparer key argument).toOption =
      (compileParts registry other comparer key argument).toOption := by
  cases argument with
  | array arguments => exact toOption_compileAll comparer arguments
  | object operators => exact toOption_compileOperators _ comparer operators
  | null | bool _ | number _ | string _ => rfl
termination_by (sizeOf argument, 2)

/-- So does an operator with its argument. -/
theorem toOption_compileOperator (comparer : Option Comparer) (key : String)
    (argument : Json) :
    (compileOperator registry one comparer key argument).toOption =
      (compileOperator registry other comparer key argument).toOption := by
  cases hoperator : Operator.ofKey? key with
  | none =>
    unfold compileOperator
    rw [hoperator]
    rfl
  | some operator =>
    have hkey := Operator.eq_key_of_ofKey? hoperator
    subst hkey
    cases operator with
    | literal operator =>
      rw [Operator.key, compileOperator_literal, compileOperator_literal]
      exact toOption_compileLiteral one other comparer _ argument operator
    | not =>
      rw [Operator.key, compileOperator_not, compileOperator_not, Except.toOption_map,
        Except.toOption_map, toOption_compile comparer argument]
    | any =>
      rw [Operator.key, compileOperator_any, compileOperator_any, Except.toOption_map,
        Except.toOption_map, toOption_compileParts comparer _ argument]
    | all =>
      rw [Operator.key, compileOperator_all, compileOperator_all, Except.toOption_map,
        Except.toOption_map, toOption_compileParts comparer _ argument]
termination_by (sizeOf argument, 3)

/-- So do the operators of an object. -/
theorem toOption_compileOperators (keep : String → Bool) (comparer : Option Comparer)
    (operators : List (String × Json)) :
    (compileOperators registry one keep comparer operators).toOption =
      (compileOperators registry other keep comparer operators).toOption := by
  match operators with
  | [] => rfl
  | (key, argument) :: rest =>
    simp only [compileOperators]
    split_ifs
    · simp only [Except.toOption_bind]
      rw [toOption_compileOperator comparer key argument,
        toOption_compileOperators keep comparer rest]
    · exact toOption_compileOperators keep comparer rest
termination_by (sizeOf operators, 0)

end

/-- A condition that compiles for a property compiles to the same for every other. -/
theorem compile_of_compile {comparer : Option Comparer} {condition : Condition} {argument : Json}
    (h : compile registry one comparer argument = .ok condition) :
    compile registry other comparer argument = .ok condition := by
  have hsame := toOption_compile registry one other comparer argument
  rw [Except.toOption_eq_some_iff.mpr h] at hsame
  exact Except.toOption_eq_some_iff.mp hsame.symm

end Renaming

end Condition

end Rulebook
