import Mathlib.Logic.Relation
import Rulebook.Comparer.Version
import Rulebook.Proofs.Condition.Grammar
import Rulebook.Proofs.Matcher.Compiled

/-!
# What the diagnosis of a matcher names

From a matcher compiling goes on to its entries, from there to the matchers in them or to the
condition of a property, and then to operators and literals. A diagnosis is about one of these
places. It names the property that the place lies under, or the key that combines matchers if
its own argument is at fault. Only for a null under a comparer it names the comparer instead.
-/

namespace Rulebook

/-- A place that compiling a matcher comes to. -/
inductive Place where
  /-- A matcher. -/
  | matcher (fields : Dict Json)
  /-- A key of a matcher with its argument. -/
  | entry (key : String) (argument : Json)
  /-- A condition with the comparer in force around it. -/
  | condition (comparer : Option Comparer) (value : Json)
  /-- A key of a condition with its argument and the comparer in force. -/
  | operator (comparer : Option Comparer) (key : String) (argument : Json)
  /-- A literal with the comparer in force. -/
  | literal (comparer : Option Comparer) (value : Json)

namespace Place

/-- From one place compiling goes on to another one. -/
inductive Opens (registry : Registry) : Place → Place → Prop where
  /-- From a matcher to each of its entries. -/
  | field {fields : Dict Json} {key : String} {argument : Json}
      (hmem : (key, argument) ∈ fields) : Opens registry (matcher fields) (entry key argument)
  /-- From `$or` and `$and` to each matcher of their list. -/
  | listed {key : String} {items : List Json} {fields : Dict Json}
      (hkey : key = "$or" ∨ key = "$and") (hmem : .object fields ∈ items) :
      Opens registry (entry key (.array items)) (matcher fields)
  /-- From `$not` to its matcher. -/
  | negated {fields : Dict Json} :
      Opens registry (entry "$not" (.object fields)) (matcher fields)
  /-- From a property to its condition, without a comparer in force. -/
  | property {key : String} {argument : Json} (hkey : isOperatorKey key = false) :
      Opens registry (entry key argument) (condition none argument)
  /-- From a scalar to itself as a literal. -/
  | scalar {comparer : Option Comparer} {value : Json} (hscalar : value.isScalar = true) :
      Opens registry (condition comparer value) (literal comparer value)
  /-- From an array to each of its literals. -/
  | item {comparer : Option Comparer} {values : List Json} {value : Json}
      (hmem : value ∈ values) :
      Opens registry (condition comparer (.array values)) (literal comparer value)
  /-- From an object to each of its keys apart from `$compare`, with the comparer in force
  within the object. -/
  | operators {comparer within : Option Comparer} {operators : Dict Json} {key : String}
      {argument : Json} (hwithin : Condition.InForce registry comparer operators within)
      (hmem : (key, argument) ∈ operators) (hkey : key ≠ comparerKey) :
      Opens registry (condition comparer (.object operators)) (operator within key argument)
  /-- From a comparison to its literal. -/
  | compared {comparer : Option Comparer} {value : Json} (relation : Relation) :
      Opens registry (operator comparer relation.key value) (literal comparer value)
  /-- From `$in` to each of its literals. -/
  | among {comparer : Option Comparer} {values : List Json} {value : Json}
      (hmem : value ∈ values) :
      Opens registry (operator comparer "$in" (.array values)) (literal comparer value)
  /-- From `$not` to its condition. -/
  | not {comparer : Option Comparer} {argument : Json} :
      Opens registry (operator comparer "$not" argument) (condition comparer argument)
  /-- From `$or` and `$and` to each condition of their list. -/
  | part {comparer : Option Comparer} {key : String} {arguments : List Json} {argument : Json}
      (hkey : key = "$or" ∨ key = "$and") (hmem : argument ∈ arguments) :
      Opens registry (operator comparer key (.array arguments)) (condition comparer argument)
  /-- From `$or` and `$and` to each key of their object. -/
  | inner {comparer : Option Comparer} {key inner : String} {operators : Dict Json}
      {argument : Json} (hkey : key = "$or" ∨ key = "$and")
      (hmem : (inner, argument) ∈ operators) :
      Opens registry (operator comparer key (.object operators)) (operator comparer inner argument)

/-- What compiling comes to from a place, in any number of steps. -/
def Leads (registry : Registry) : Place → Place → Prop :=
  Relation.ReflTransGen (Opens registry)

/-- What stands at a place is not what is wanted there. -/
inductive AtFault : Place → MatcherFault → Prop where
  /-- `$or` or `$and` without a list of matchers. -/
  | notMatchers {key : String} {argument : Json} (hkey : key = "$or" ∨ key = "$and")
      (harray : ∀ items, argument ≠ .array items) : AtFault (entry key argument) .notMatchers
  /-- `$or` or `$and` with something in their list that is no object. -/
  | notMatcherListed {key : String} {items : List Json} {item : Json}
      (hkey : key = "$or" ∨ key = "$and") (hmem : item ∈ items)
      (hobject : ∀ fields, item ≠ .object fields) :
      AtFault (entry key (.array items)) .notMatcher
  /-- `$not` without an object. -/
  | notMatcher {argument : Json} (hobject : ∀ fields, argument ≠ .object fields) :
      AtFault (entry "$not" argument) .notMatcher
  /-- An object with a `$compare` that is no text. -/
  | notComparerName {comparer : Option Comparer} {operators : Dict Json} {named : Json}
      (hnamed : Dict.find? comparerKey operators = some named)
      (htext : ∀ name, named ≠ .string name) :
      AtFault (condition comparer (.object operators)) .notComparerName
  /-- An object with no key apart from `$compare`. -/
  | noOperator {comparer : Option Comparer} {operators : Dict Json}
      (hnone : ∀ entry ∈ operators, entry.1 = comparerKey) :
      AtFault (condition comparer (.object operators)) .noOperator
  /-- An array or object as a literal. -/
  | notScalar {comparer : Option Comparer} {found : Json} (hscalar : found.isScalar = false) :
      AtFault (literal comparer found) (.notScalar found)
  /-- `$in` without a list. -/
  | notLiterals {comparer : Option Comparer} {argument : Json}
      (harray : ∀ values, argument ≠ .array values) :
      AtFault (operator comparer "$in" argument) .notLiterals
  /-- A test of the text without a text. -/
  | notText {comparer : Option Comparer} {key : String} {argument : Json}
      (hkey : key = "$contains" ∨ key = "$startswith" ∨ key = "$endswith")
      (htext : argument.text? = none) : AtFault (operator comparer key argument) (.notText key)
  /-- `$or` or `$and` with a scalar. -/
  | notConditions {comparer : Option Comparer} {key : String} {argument : Json}
      (hkey : key = "$or" ∨ key = "$and") (hscalar : argument.isScalar = true) :
      AtFault (operator comparer key argument) (.notConditions key)
  /-- A key without a dollar sign among operators. -/
  | unexpectedKey {comparer : Option Comparer} {key : String} {argument : Json}
      (hkey : isOperatorKey key = false) :
      AtFault (operator comparer key argument) (.unexpectedKey key)

/-- What a diagnosis of a place under a key names. -/
inductive Names (key : String) : Place → MatcherFault → String → Prop where
  /-- The key itself, if the place is at fault. -/
  | key {place : Place} {fault : MatcherFault} (hfault : AtFault place fault) :
      Names key place fault key
  /-- The comparer in force, if the place is a null. -/
  | comparer (within : Comparer) :
      Names key (literal (some within) .null) (.notOperand .null) within.name

/-- A place lies under a key: within the entry of a property, or it is the entry itself. -/
def Under (registry : Registry) (start : Place) (key : String) (place : Place) : Prop :=
  ∃ argument, Leads registry start (entry key argument) ∧
    Leads registry (entry key argument) place ∧
    (isOperatorKey key = false ∨ place = entry key argument)

/-- A place stands in the condition of a property. -/
def InCondition : Place → Prop
  | matcher _ | entry _ _ => False
  | condition _ _ | operator _ _ _ | literal _ _ => True

variable {registry : Registry}

/-- Compiling does not leave a condition in one step. -/
theorem Opens.inCondition {start next : Place} (h : Opens registry start next)
    (hstart : start.InCondition) : next.InCondition := by
  cases h with
  | field _ | listed _ _ | negated | property _ => cases hstart
  | scalar _ | item _ | operators _ _ _ | compared _ | among _ | not | part _ _ | inner _ _ =>
    exact trivial

/-- Nor in any number of steps. -/
theorem Leads.inCondition {start place : Place} (h : Leads registry start place)
    (hstart : start.InCondition) : place.InCondition := by
  induction h with
  | refl => exact hstart
  | tail _ hopens ih => exact hopens.inCondition ih

/-- From one property with its condition compiling comes to no other entry. -/
theorem Leads.eq_of_property {property key : String} {value argument : Json}
    (hproperty : isOperatorKey property = false)
    (h : Leads registry (matcher [(property, value)]) (entry key argument)) : key = property := by
  rcases h.cases_head with hsame | ⟨next, hopens, h⟩
  · cases hsame
  cases hopens with
  | field hmem =>
    cases List.mem_singleton.mp hmem
    rcases h.cases_head with hsame | ⟨inner, hopens, h⟩
    · cases hsame
      rfl
    · have hinner : inner.InCondition := by
        cases hopens with
        | listed hkey _ => rcases hkey with rfl | rfl <;> cases hproperty
        | negated => cases hproperty
        | property _ => exact trivial
      cases Leads.inCondition h hinner

end Place

variable {registry : Registry} {property named : String} {comparer : Option Comparer}
  {fault : MatcherFault}

namespace Condition

open Place

/-- From a place of the condition of a property compiling comes to one that the diagnosis is
about. -/
def Diagnosed (registry : Registry) (property : String) (start : Place) (fault : MatcherFault)
    (named : String) : Prop :=
  ∃ place, Leads registry start place ∧ Names property place fault named

theorem Diagnosed.of_atFault {place : Place} (h : AtFault place fault) :
    Diagnosed registry property place fault property :=
  ⟨place, .refl, .key h⟩

theorem Diagnosed.of_opens {start next : Place} (h : Diagnosed registry property next fault named)
    (hopens : Opens registry start next) : Diagnosed registry property start fault named := by
  obtain ⟨place, hleads, hnames⟩ := h
  exact ⟨place, .head hopens hleads, hnames⟩

/-- A literal is refused as an array or object or as a null under a comparer. -/
theorem diagnosed_of_checkLiteral {value : Json}
    (h : checkLiteral property comparer value = .error (.matcher named fault)) :
    Diagnosed registry property (literal comparer value) fault named := by
  unfold checkLiteral at h
  split_ifs at h with hscalar
  · split at h
    · cases h
    · next within =>
      split at h
      · next htext =>
        cases h
        cases value with
        | null => exact ⟨_, .refl, .comparer within⟩
        | bool b => cases b <;> cases htext
        | number _ | string _ => cases htext
        | array _ | object _ => cases hscalar
      · split at h <;> cases h
  · cases h
    exact .of_atFault (.notScalar (Bool.eq_false_iff.mpr hscalar))

/-- One literal of a refused list is refused. -/
theorem exists_of_checkLiterals_eq_error {values : List Json} {error : CompileError}
    (h : checkLiterals property comparer values = .error error) :
    ∃ value ∈ values, checkLiteral property comparer value = .error error := by
  induction values with
  | nil => cases h
  | cons value rest ih =>
    rw [checkLiterals] at h
    rcases Except.bind_eq_error_iff.mp h with hvalue | ⟨_, -, hrest⟩
    · exact ⟨value, List.mem_cons_self, hvalue⟩
    · obtain ⟨other, hmem, hother⟩ := ih hrest
      exact ⟨other, List.mem_cons_of_mem _ hmem, hother⟩

theorem diagnosed_of_compileComparison {relation : Relation} {value : Json}
    (h : compileComparison property comparer relation value = .error (.matcher named fault)) :
    Diagnosed registry property (literal comparer value) fault named :=
  diagnosed_of_checkLiteral (Except.bind_pure_eq_error_iff.mp h)

/-- Membership in a list is refused for one of its literals. -/
theorem exists_diagnosed_of_compileMembership {values : List Json}
    (h : compileMembership property comparer (.array values) = .error (.matcher named fault)) :
    ∃ value ∈ values, Diagnosed registry property (literal comparer value) fault named := by
  have hcheck := Except.bind_pure_eq_error_iff.mp h
  obtain ⟨value, hmem, hvalue⟩ := exists_of_checkLiterals_eq_error hcheck
  exact ⟨value, hmem, diagnosed_of_checkLiteral hvalue⟩

/-- A test of the text is refused without a text. -/
theorem diagnosed_of_compileText {key : String} {test : String → Condition} {argument : Json}
    (hkey : key = "$contains" ∨ key = "$startswith" ∨ key = "$endswith")
    (h : compileText property key test argument = .error (.matcher named fault)) :
    Diagnosed registry property (operator comparer key argument) fault named := by
  unfold compileText at h
  split at h
  · cases h
  · next htext =>
    cases h
    exact .of_atFault (.notText hkey htext)

/-- An operator with a literal or literals is refused for itself or for a literal. -/
theorem diagnosed_of_compileLiteral {argument : Json} (given : LiteralOperator)
    (h : compileLiteral property given.key comparer argument given =
      .error (.matcher named fault)) :
    Diagnosed registry property (operator comparer given.key argument) fault named := by
  cases given with
  | compares relation => exact (diagnosed_of_compileComparison h).of_opens (.compared relation)
  | among =>
    cases argument with
    | array values =>
      obtain ⟨value, hmem, hvalue⟩ := exists_diagnosed_of_compileMembership h
      exact hvalue.of_opens (.among hmem)
    | null | bool _ | number _ | string _ | object _ =>
      cases h
      exact .of_atFault (.notLiterals nofun)
  | contains => exact diagnosed_of_compileText (Or.inl rfl) h
  | startsWith => exact diagnosed_of_compileText (Or.inr (Or.inl rfl)) h
  | endsWith => exact diagnosed_of_compileText (Or.inr (Or.inr rfl)) h

/-- A key that is no operator has no dollar sign if the diagnosis is about the matcher. -/
theorem diagnosed_of_unknownKey {key : String} {argument : Json}
    (h : unknownKey property key = .matcher named fault) :
    Diagnosed registry property (operator comparer key argument) fault named := by
  unfold unknownKey at h
  split_ifs at h with hkey
  cases h
  exact .of_atFault (.unexpectedKey (Bool.eq_false_iff.mpr hkey))

/-- The name of a comparer is refused if it is no text. -/
theorem diagnosed_of_comparerWithin {operators : Dict Json}
    (h : comparerWithin registry property comparer operators = .error (.matcher named fault)) :
    Diagnosed registry property (condition comparer (.object operators)) fault named := by
  unfold comparerWithin at h
  split at h
  · cases h
  · split at h <;> cases h
  · next found htext hnamed =>
    cases h
    exact .of_atFault (.notComparerName hnamed htext)

/-- An object without an operator is refused. -/
theorem diagnosed_of_conjunction {operators : Dict Json} {within : Option Comparer}
    {parts : List Condition}
    (hparts : compileOperators registry property (· != comparerKey) within operators = .ok parts)
    (h : conjunction property parts = .error (.matcher named fault)) :
    Diagnosed registry property (condition comparer (.object operators)) fault named := by
  unfold conjunction at h
  split at h
  · cases h
    refine .of_atFault (.noOperator fun entry hmem => ?_)
    by_contra hkey
    exact (ne_nil_iff_of_compileOperators hparts).mpr ⟨entry, hmem, bne_iff_ne.mpr hkey⟩ rfl
  · cases h
  · cases h

/-- One operator of a refused object is refused. -/
theorem exists_of_compileOperators_eq_error {keep : String → Bool} {operators : Dict Json}
    {error : CompileError}
    (h : compileOperators registry property keep comparer operators = .error error) :
    ∃ key argument, (key, argument) ∈ operators ∧ keep key = true ∧
      compileOperator registry property comparer key argument = .error error := by
  rw [compileOperators_eq_mapM] at h
  obtain ⟨⟨key, argument⟩, hentry, herror⟩ := Except.exists_of_mapM_eq_error h
  obtain ⟨hmem, hkeep⟩ := List.mem_filter.mp hentry
  exact ⟨key, argument, hmem, hkeep, herror⟩

theorem exists_of_compileAll_eq_error {arguments : List Json} {error : CompileError}
    (h : compileAll registry property comparer arguments = .error error) :
    ∃ argument ∈ arguments, compile registry property comparer argument = .error error := by
  rw [compileAll_eq_mapM] at h
  exact Except.exists_of_mapM_eq_error h

-- A condition is refused for an operator, and an operator for a condition or an operator in
-- its argument, so the three lemmas go down the argument together.
mutual

/-- A condition that is refused leads to what the diagnosis is about. -/
theorem diagnosed_of_compile {comparer : Option Comparer} {argument : Json}
    (h : compile registry property comparer argument = .error (.matcher named fault)) :
    Diagnosed registry property (condition comparer argument) fault named := by
  cases argument with
  | array values =>
    rw [compile] at h
    obtain ⟨value, hmem, hvalue⟩ := exists_diagnosed_of_compileMembership h
    exact hvalue.of_opens (.item hmem)
  | object operators =>
    rw [compile] at h
    rcases Except.bind_eq_error_iff.mp h with hwithin | ⟨within, hwithin, h⟩
    · exact diagnosed_of_comparerWithin hwithin
    rcases Except.bind_eq_error_iff.mp h with hoperators | ⟨parts, hparts, h⟩
    · obtain ⟨key, inner, hmem, hkey, herror⟩ := exists_of_compileOperators_eq_error hoperators
      have hlt := Json.sizeOf_field_lt hmem
      exact (diagnosed_of_compileOperator herror).of_opens
        (.operators (comparerWithin_eq_ok_iff.mp hwithin) hmem (bne_iff_ne.mp hkey))
    · exact diagnosed_of_conjunction hparts h
  | null | bool _ | number _ | string _ =>
    simp only [compile] at h
    exact (diagnosed_of_compileComparison h).of_opens (.scalar rfl)
termination_by (sizeOf argument, 0)

/-- So do parts of `$or` and `$and` that are refused. -/
theorem diagnosed_of_compileParts {comparer : Option Comparer} {key : String} {argument : Json}
    (hkey : key = "$or" ∨ key = "$and")
    (h : compileParts registry property comparer key argument = .error (.matcher named fault)) :
    Diagnosed registry property (operator comparer key argument) fault named := by
  cases argument with
  | array arguments =>
    obtain ⟨inner, hmem, herror⟩ := exists_of_compileAll_eq_error h
    have hlt := Json.sizeOf_item_lt hmem
    exact (diagnosed_of_compile herror).of_opens (.part hkey hmem)
  | object operators =>
    obtain ⟨name, inner, hmem, -, herror⟩ := exists_of_compileOperators_eq_error h
    have hlt := Json.sizeOf_field_lt hmem
    exact (diagnosed_of_compileOperator herror).of_opens (.inner hkey hmem)
  | null | bool _ | number _ | string _ =>
    cases h
    exact .of_atFault (.notConditions hkey rfl)
termination_by (sizeOf argument, 1)

/-- So does an operator that is refused. -/
theorem diagnosed_of_compileOperator {comparer : Option Comparer} {key : String}
    {argument : Json}
    (h : compileOperator registry property comparer key argument =
      .error (.matcher named fault)) :
    Diagnosed registry property (operator comparer key argument) fault named := by
  cases hoperator : Operator.ofKey? key with
  | none =>
    unfold compileOperator at h
    rw [hoperator] at h
    exact diagnosed_of_unknownKey (Except.error.inj h)
  | some found =>
    have hkey := Operator.eq_key_of_ofKey? hoperator
    subst hkey
    cases found with
    | literal given =>
      rw [Operator.key, compileOperator_literal] at h
      exact diagnosed_of_compileLiteral given h
    | not =>
      rw [Operator.key, compileOperator_not, Except.map_eq_error_iff] at h
      exact (diagnosed_of_compile h).of_opens .not
    | any =>
      rw [Operator.key, compileOperator_any, Except.map_eq_error_iff] at h
      exact diagnosed_of_compileParts (Or.inl rfl) h
    | all =>
      rw [Operator.key, compileOperator_all, Except.map_eq_error_iff] at h
      exact diagnosed_of_compileParts (Or.inr rfl) h
termination_by (sizeOf argument, 2)

end

end Condition

namespace Matcher

open Place

/-- From a place compiling comes to one under a key of a matcher that the diagnosis is about. -/
def Diagnosed (registry : Registry) (start : Place) (fault : MatcherFault) (named : String) :
    Prop :=
  ∃ key place, Under registry start key place ∧ Names key place fault named

theorem Diagnosed.of_atFault {key : String} {argument : Json}
    (h : AtFault (entry key argument) fault) :
    Diagnosed registry (entry key argument) fault key :=
  ⟨key, entry key argument, ⟨argument, .refl, .refl, Or.inr rfl⟩, .key h⟩

/-- What is diagnosed of the condition of a property is diagnosed of its entry. -/
theorem Diagnosed.of_property {key : String} {argument : Json} (hkey : isOperatorKey key = false)
    (h : Condition.Diagnosed registry key (condition none argument) fault named) :
    Diagnosed registry (entry key argument) fault named := by
  obtain ⟨place, hleads, hnames⟩ := h
  exact ⟨key, place, ⟨argument, .refl, .head (.property hkey) hleads, Or.inl hkey⟩, hnames⟩

theorem Diagnosed.of_opens {start next : Place} (h : Diagnosed registry next fault named)
    (hopens : Opens registry start next) : Diagnosed registry start fault named := by
  obtain ⟨key, place, ⟨argument, hentry, hplace, hkey⟩, hnames⟩ := h
  exact ⟨key, place, ⟨argument, .head hopens hentry, hplace, hkey⟩, hnames⟩

-- A matcher is refused for an entry, and an entry for a matcher in its argument or for the
-- condition of a property.
mutual

/-- A matcher that is refused leads to what the diagnosis is about. -/
theorem diagnosed_of_compileEntries {fields : Dict Json}
    (h : compileEntries registry fields = .error (.matcher named fault)) :
    Diagnosed registry (matcher fields) fault named := by
  rw [compileEntries_eq_mapM] at h
  obtain ⟨⟨key, argument⟩, hmem, herror⟩ := Except.exists_of_mapM_eq_error h
  have hlt := Json.sizeOf_lt_of_field hmem
  exact (diagnosed_of_compileEntry herror).of_opens (.field hmem)
termination_by (sizeOf fields, 0)

/-- So does a list of matchers that is refused. -/
theorem diagnosed_of_compileItems {key : String} {items : List Json}
    (hkey : key = "$or" ∨ key = "$and")
    (h : compileItems registry key items = .error (.matcher named fault)) :
    Diagnosed registry (entry key (.array items)) fault named := by
  rw [compileItems_eq_mapM] at h
  obtain ⟨item, hmem, herror⟩ := Except.exists_of_mapM_eq_error h
  cases item with
  | object fields =>
    have hlt : sizeOf fields < sizeOf items := by
      have hitem := List.sizeOf_lt_of_mem hmem
      rw [Json.object.sizeOf_spec] at hitem
      omega
    exact (diagnosed_of_compileEntries (Except.bind_pure_eq_error_iff.mp herror)).of_opens
      (.listed hkey hmem)
  | null | bool _ | number _ | string _ | array _ =>
    cases herror
    exact .of_atFault (.notMatcherListed hkey hmem nofun)
termination_by (sizeOf items, 0)

/-- So does an entry that is refused. -/
theorem diagnosed_of_compileEntry {key : String} {argument : Json}
    (h : compileEntry registry key argument = .error (.matcher named fault)) :
    Diagnosed registry (entry key argument) fault named := by
  unfold compileEntry at h
  split_ifs at h with hor hand hnot hdollar
  · cases argument with
    | array items =>
      exact diagnosed_of_compileItems (Or.inl hor) (Except.bind_pure_eq_error_iff.mp h)
    | null | bool _ | number _ | string _ | object _ =>
      cases h
      exact .of_atFault (.notMatchers (Or.inl hor) nofun)
  · cases argument with
    | array items =>
      exact diagnosed_of_compileItems (Or.inr hand) (Except.bind_pure_eq_error_iff.mp h)
    | null | bool _ | number _ | string _ | object _ =>
      cases h
      exact .of_atFault (.notMatchers (Or.inr hand) nofun)
  · subst hnot
    cases argument with
    | object fields =>
      have hentries := Except.bind_pure_eq_error_iff.mp h
      exact (diagnosed_of_compileEntries hentries).of_opens .negated
    | null | bool _ | number _ | string _ | array _ =>
      cases h
      exact .of_atFault (.notMatcher nofun)
  · cases h
  · have hcondition := Except.bind_pure_eq_error_iff.mp h
    exact .of_property (Bool.eq_false_iff.mpr hdollar) (Condition.diagnosed_of_compile hcondition)
termination_by (sizeOf argument, 1)

end

/-- Diagnoses name a key. A matcher that is refused as not well-formed leads to a place that is
at fault, and the diagnosis names the key that the place lies under; or it leads to a null with
a comparer in force, and then the diagnosis names the comparer and not the property that the
null lies under. -/
theorem exists_place_of_compile_error {fields : Dict Json}
    (h : compile registry fields = .error (.matcher named fault)) :
    ∃ key place, Under registry (matcher fields) key place ∧ Names key place fault named :=
  diagnosed_of_compileEntries (Except.bind_pure_eq_error_iff.mp h)

/-- A list as a bound, in a matcher of a list of matchers. -/
theorem exists_place_of_compile_error_age :
    compile .builtin [("$or", .array [.object [("age", .object [("$gt", .array [])])]])] =
        .error (.matcher "age" (.notScalar (.array []))) ∧
      ∃ key place, Under .builtin (matcher
          [("$or", .array [.object [("age", .object [("$gt", .array [])])]])]) key place ∧
        Names key place (.notScalar (.array [])) "age" := by
  have hcompile : compile .builtin
      [("$or", .array [.object [("age", .object [("$gt", .array [])])]])] =
        .error (.matcher "age" (.notScalar (.array []))) := by rfl
  exact ⟨hcompile, exists_place_of_compile_error hcompile⟩

/-- The diagnosis of a null that is compared as a version names no key of the matcher. -/
theorem exists_diagnosis_without_key :
    ∃ named fault,
      compile .builtin [("v", .object [("$compare", .string "version"), ("$eq", .null)])] =
        .error (.matcher named fault) ∧
      ∀ place, ¬ Under .builtin (matcher
        [("v", .object [("$compare", .string "version"), ("$eq", .null)])]) named place := by
  refine ⟨"version", .notOperand .null, by rfl, ?_⟩
  rintro place ⟨argument, hentry, -, -⟩
  exact absurd (hentry.eq_of_property (by decide)) (by decide)

end Matcher

end Rulebook
