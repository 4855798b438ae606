import Rulebook.Proofs.Json.Parts
import Rulebook.Proofs.Matcher.Reading

/-!
# Why a matcher is refused

A matcher fails only where a condition consults a comparer about a literal, and only
if the context has a text for the property that the comparer refuses to compare with
it. The compiler has made sure that the comparer understands the literal.
-/

namespace Rulebook

namespace Reading

/-- An operator is given a literal to compare values with. -/
inductive Given (literal : Json) : String → Json → Prop where
  /-- By itself. -/
  | alone (relation : Relation) : Given literal relation.key literal
  /-- In a list. -/
  | listed {literals : List Json} (hmem : literal ∈ literals) :
    Given literal "$in" (.array literals)

mutual

/-- A condition consults the comparer of a name about a literal. -/
inductive ConditionConsults (name : String) (literal : Json) : Enclosure → Json → Prop where
  /-- The condition is the literal. -/
  | scalar {around : Enclosure} (hname : around.comparerName? = some name)
      (hscalar : literal.isScalar = true) : ConditionConsults name literal around literal
  /-- The condition is a list with the literal. -/
  | listed {around : Enclosure} {literals : List Json}
      (hname : around.comparerName? = some name) (hmem : literal ∈ literals) :
      ConditionConsults name literal around (.array literals)
  /-- The condition has an operator that does. -/
  | operator {around : Enclosure} {operators : List (String × Json)} {key : String}
      {argument : Json} (hmem : (key, argument) ∈ operators)
      (hoperator : OperatorConsults name literal (operators :: around) key argument) :
      ConditionConsults name literal around (.object operators)

/-- An operator consults the comparer of a name about a literal. -/
inductive OperatorConsults (name : String) (literal : Json) :
    Enclosure → String → Json → Prop where
  /-- The operator is given the literal. -/
  | given {around : Enclosure} {key : String} {argument : Json}
      (hname : around.comparerName? = some name) (hgiven : Given literal key argument) :
      OperatorConsults name literal around key argument
  /-- The operator negates a condition that does. -/
  | not {around : Enclosure} {argument : Json}
      (hcondition : ConditionConsults name literal around argument) :
      OperatorConsults name literal around "$not" argument
  /-- The operator has a condition in its list that does. -/
  | condition {around : Enclosure} {key : String} {arguments : List Json} {argument : Json}
      (hkey : key = "$or" ∨ key = "$and") (hmem : argument ∈ arguments)
      (hcondition : ConditionConsults name literal around argument) :
      OperatorConsults name literal around key (.array arguments)
  /-- The operator has an operator in its object that does. -/
  | operator {around : Enclosure} {key inner : String} {operators : List (String × Json)}
      {argument : Json} (hkey : key = "$or" ∨ key = "$and")
      (hmem : (inner, argument) ∈ operators)
      (hoperator : OperatorConsults name literal (operators :: around) inner argument) :
      OperatorConsults name literal around key (.object operators)

end

/-- A matcher consults the comparer of a name about a literal, for the value of a
property. -/
inductive MatcherConsults (property name : String) (literal : Json) :
    List (String × Json) → Prop where
  /-- The condition of the property does. -/
  | property {entries : List (String × Json)} {condition : Json}
      (hmem : (property, condition) ∈ entries) (hkey : isOperatorKey property = false)
      (hcondition : ConditionConsults name literal [] condition) :
      MatcherConsults property name literal entries
  /-- A matcher that is negated does. -/
  | not {entries fields : List (String × Json)} (hmem : ("$not", .object fields) ∈ entries)
      (hmatcher : MatcherConsults property name literal fields) :
      MatcherConsults property name literal entries
  /-- A matcher of a list does. -/
  | listed {entries fields : List (String × Json)} {key : String} {items : List Json}
      (hkey : key = "$or" ∨ key = "$and") (hmem : (key, .array items) ∈ entries)
      (hitem : .object fields ∈ items)
      (hmatcher : MatcherConsults property name literal fields) :
      MatcherConsults property name literal entries

/-- The comparer of a name refuses to compare a value with a literal. -/
def Refuses (registry : Registry) (name : String) (value literal : Json)
    (error : ComparisonError) : Prop :=
  ∃ comparer left right, registry.get? name = some comparer ∧ value.text? = some left ∧
    literal.text? = some right ∧ comparer.compare left right = .error error

/-- The comparer of a name understands a literal. -/
def Understands (registry : Registry) (name : String) (literal : Json) : Prop :=
  ∃ comparer text order, registry.get? name = some comparer ∧ literal.text? = some text ∧
    comparer.compare text text = .ok order

variable {registry : Registry} {value : Json} {error : ComparisonError}

/-- A comparison fails only if a comparer refuses the texts of both sides. -/
theorem exists_of_compareHolds_error {relation : Relation} {written : Json}
    {comparer : Option Comparer}
    (h : Condition.compareHolds relation written comparer value = .error error) :
    ∃ found left right, comparer = some found ∧ value.text? = some left ∧
      written.text? = some right ∧ found.compare left right = .error error := by
  unfold Condition.compareHolds at h
  split at h
  · cases h
  · next found =>
    split at h
    · next left right hleft hright =>
      exact ⟨found, left, right, rfl, hleft, hright, Except.map_eq_error_iff.mp h⟩
    · cases h

/-- The comparer in force has the name that the objects around give. -/
theorem refuses_of_compareHolds_error {around : Enclosure} {relation : Relation} {written : Json}
    (h : Condition.compareHolds relation written (around.comparer? registry) value =
      .error error) :
    ∃ name, around.comparerName? = some name ∧ Refuses registry name value written error := by
  obtain ⟨found, left, right, hfound, hleft, hright, hcompare⟩ := exists_of_compareHolds_error h
  obtain ⟨name, hname, hget⟩ := Option.bind_eq_some_iff.mp hfound
  exact ⟨name, hname, found, left, right, hget, hleft, hright, hcompare⟩

/-- Membership fails only if the comparer in force refuses one of the literals. -/
theorem exists_listed_of_error {around : Enclosure} {literals : List Json}
    (h : Verdict.any (literals.map fun written =>
      Condition.compareHolds .eq written (around.comparer? registry) value) = .error error) :
    ∃ name written, around.comparerName? = some name ∧ written ∈ literals ∧
      Refuses registry name value written error := by
  obtain ⟨written, hmem, hholds⟩ := List.mem_map.mp (Verdict.error_mem_of_any h)
  obtain ⟨name, hname, hrefuses⟩ := refuses_of_compareHolds_error hholds
  exact ⟨name, written, hname, hmem, hrefuses⟩

/-- An operator with a literal or literals fails only if the comparer in force refuses
one that it is given. -/
theorem exists_given_of_literal_error {around : Enclosure} {key : String} {argument : Json}
    (h : literal (around.comparer? registry) value key argument = .error error) :
    ∃ name written, around.comparerName? = some name ∧ Given written key argument ∧
      Refuses registry name value written error := by
  have hrelation : ∀ relation : Relation, key = relation.key →
      Condition.compareHolds relation argument (around.comparer? registry) value =
        .error error →
      ∃ name written, around.comparerName? = some name ∧ Given written key argument ∧
        Refuses registry name value written error := by
    intro relation hkey hholds
    obtain ⟨name, hname, hrefuses⟩ := refuses_of_compareHolds_error hholds
    exact ⟨name, argument, hname, hkey ▸ .alone relation, hrefuses⟩
  unfold literal at h
  split at h
  · exact hrelation .eq rfl h
  · exact hrelation .ne rfl h
  · exact hrelation .gt rfl h
  · exact hrelation .ge rfl h
  · exact hrelation .lt rfl h
  · exact hrelation .le rfl h
  · split at h
    · obtain ⟨name, written, hname, hmem, hrefuses⟩ := exists_listed_of_error h
      exact ⟨name, written, hname, .listed hmem, hrefuses⟩
    · cases h
  all_goals cases h

/-- What some conditions say is what one of them says. -/
theorem exists_of_mem_conditions {around : Enclosure} {arguments : List Json}
    {verdict : Verdict} (h : verdict ∈ conditions registry around value arguments) :
    ∃ argument ∈ arguments, condition registry around value argument = verdict := by
  induction arguments with
  | nil =>
    rw [conditions] at h
    exact absurd h List.not_mem_nil
  | cons argument rest ih =>
    rw [conditions] at h
    rcases List.mem_cons.mp h with rfl | h
    · exact ⟨argument, List.mem_cons_self, rfl⟩
    · obtain ⟨other, hmem, hother⟩ := ih h
      exact ⟨other, List.mem_cons_of_mem _ hmem, hother⟩

/-- What some operators say is what one of them says. -/
theorem exists_of_mem_operators {around : Enclosure} {entries : List (String × Json)}
    {verdict : Verdict} (h : verdict ∈ operators registry around value entries) :
    ∃ key argument, (key, argument) ∈ entries ∧
      operator registry around value key argument = verdict := by
  induction entries with
  | nil =>
    rw [operators] at h
    exact absurd h List.not_mem_nil
  | cons entry rest ih =>
    obtain ⟨key, argument⟩ := entry
    rw [operators] at h
    have hrest : verdict ∈ operators registry around value rest →
        ∃ inner written, (inner, written) ∈ (key, argument) :: rest ∧
          operator registry around value inner written = verdict := by
      intro hmem
      obtain ⟨inner, written, hinner, hverdict⟩ := ih hmem
      exact ⟨inner, written, List.mem_cons_of_mem _ hinner, hverdict⟩
    split_ifs at h
    · exact hrest h
    · rcases List.mem_cons.mp h with rfl | h
      · exact ⟨key, argument, List.mem_cons_self, rfl⟩
      · exact hrest h

-- A condition fails because of an operator, and an operator because of a condition or
-- an operator in its argument, so the three lemmas go down the argument together.
mutual

/-- A condition that fails consults a comparer about a literal, and the comparer
refuses to compare the value with it. -/
theorem consults_of_condition_error {around : Enclosure} {argument : Json}
    (h : condition registry around value argument = .error error) :
    ∃ name written, ConditionConsults name written around argument ∧
      Refuses registry name value written error := by
  cases argument with
  | array literals =>
    rw [condition] at h
    obtain ⟨name, written, hname, hmem, hrefuses⟩ := exists_listed_of_error h
    exact ⟨name, written, .listed hname hmem, hrefuses⟩
  | object entries =>
    rw [condition] at h
    obtain ⟨key, inner, hmem, hinner⟩ := exists_of_mem_operators (Verdict.error_mem_of_all h)
    have hlt := Json.sizeOf_field_lt hmem
    obtain ⟨name, written, hconsults, hrefuses⟩ := consults_of_operator_error hinner
    exact ⟨name, written, .operator hmem hconsults, hrefuses⟩
  | null | bool _ | number _ | string _ =>
    simp only [condition] at h
    obtain ⟨name, hname, hrefuses⟩ := refuses_of_compareHolds_error h
    exact ⟨name, _, .scalar hname rfl, hrefuses⟩
termination_by (sizeOf argument, 0)

/-- So do the parts of `$or` and `$and`, if one of them fails. -/
theorem consults_of_parts_error {around : Enclosure} {key : String} {argument : Json}
    (hkey : key = "$or" ∨ key = "$and")
    (h : .error error ∈ parts registry around value argument) :
    ∃ name written, OperatorConsults name written around key argument ∧
      Refuses registry name value written error := by
  cases argument with
  | array arguments =>
    rw [parts] at h
    obtain ⟨inner, hmem, hinner⟩ := exists_of_mem_conditions h
    have hlt := Json.sizeOf_item_lt hmem
    obtain ⟨name, written, hconsults, hrefuses⟩ := consults_of_condition_error hinner
    exact ⟨name, written, .condition hkey hmem hconsults, hrefuses⟩
  | object entries =>
    rw [parts] at h
    obtain ⟨innerKey, inner, hmem, hinner⟩ := exists_of_mem_operators h
    have hlt := Json.sizeOf_field_lt hmem
    obtain ⟨name, written, hconsults, hrefuses⟩ := consults_of_operator_error hinner
    exact ⟨name, written, .operator hkey hmem hconsults, hrefuses⟩
  | null | bool _ | number _ | string _ =>
    simp only [parts] at h
    exact absurd h List.not_mem_nil
termination_by (sizeOf argument, 1)

/-- So does an operator that fails. -/
theorem consults_of_operator_error {around : Enclosure} {key : String} {argument : Json}
    (h : operator registry around value key argument = .error error) :
    ∃ name written, OperatorConsults name written around key argument ∧
      Refuses registry name value written error := by
  unfold operator at h
  split at h
  · obtain ⟨name, written, hconsults, hrefuses⟩ :=
      consults_of_condition_error (Verdict.error_of_not h)
    exact ⟨name, written, .not hconsults, hrefuses⟩
  · exact consults_of_parts_error (Or.inl rfl) (Verdict.error_mem_of_any h)
  · exact consults_of_parts_error (Or.inr rfl) (Verdict.error_mem_of_all h)
  · obtain ⟨name, written, hname, hgiven, hrefuses⟩ := exists_given_of_literal_error h
    exact ⟨name, written, .given hname hgiven, hrefuses⟩
termination_by (sizeOf argument, 2)

end

/-- What the matchers of a list say is what one of them says. -/
theorem exists_of_mem_matchers {lookup : Lookup} {items : List Json} {verdict : Verdict}
    (h : verdict ∈ matchers registry lookup items) :
    ∃ fields, .object fields ∈ items ∧ matcher registry lookup fields = verdict := by
  induction items with
  | nil =>
    rw [matchers] at h
    exact absurd h List.not_mem_nil
  | cons item rest ih =>
    cases item with
    | object fields =>
      rw [matchers] at h
      rcases List.mem_cons.mp h with rfl | h
      · exact ⟨fields, List.mem_cons_self, rfl⟩
      · obtain ⟨inner, hmem, hinner⟩ := ih h
        exact ⟨inner, List.mem_cons_of_mem _ hmem, hinner⟩
    | null | bool _ | number _ | string _ | array _ =>
      simp only [matchers] at h
      obtain ⟨inner, hmem, hinner⟩ := ih h
      exact ⟨inner, List.mem_cons_of_mem _ hmem, hinner⟩

/-- What the entries of a matcher say is what one of them says. -/
theorem exists_of_mem_entries {lookup : Lookup} {fields : List (String × Json)}
    {verdict : Verdict} (h : verdict ∈ entries registry lookup fields) :
    ∃ key argument, (key, argument) ∈ fields ∧ entry registry lookup key argument = verdict := by
  induction fields with
  | nil =>
    rw [entries] at h
    exact absurd h List.not_mem_nil
  | cons field rest ih =>
    obtain ⟨key, argument⟩ := field
    rw [entries] at h
    rcases List.mem_cons.mp h with rfl | h
    · exact ⟨key, argument, List.mem_cons_self, rfl⟩
    · obtain ⟨other, written, hmem, hverdict⟩ := ih h
      exact ⟨other, written, List.mem_cons_of_mem _ hmem, hverdict⟩

/-- A matcher that compiles and fails consults a comparer about a literal, and the
comparer refuses to compare the value of the property with it. -/
theorem consults_of_matcher_error {lookup : Lookup} {fields : List (String × Json)}
    {compiled : List Matcher} (hcompile : Matcher.compileEntries registry fields = .ok compiled)
    (h : matcher registry lookup fields = .error error) :
    ∃ property name written, MatcherConsults property name written fields ∧
      Refuses registry name ((lookup property).getD .null) written error := by
  obtain ⟨key, argument, hmem, hentry⟩ := exists_of_mem_entries (Verdict.error_mem_of_all h)
  have hlt := Json.sizeOf_field_lt hmem
  obtain ⟨part, hpart⟩ := Matcher.exists_of_compileEntries hcompile hmem
  -- What a list of matchers is refused for, one of them is refused for.
  have hlisted : ∀ items parts, (key = "$or" ∨ key = "$and") → argument = .array items →
      Matcher.compileItems registry key items = .ok parts →
      .error error ∈ matchers registry lookup items →
      ∃ property name written, MatcherConsults property name written fields ∧
        Refuses registry name ((lookup property).getD .null) written error := by
    rintro items parts hkey rfl hparts herror
    obtain ⟨inner, hitem, hinner⟩ := exists_of_mem_matchers herror
    have hinnerLt := Nat.lt_trans (Json.sizeOf_item_lt hitem) hlt
    obtain ⟨innerParts, hinnerParts⟩ := Matcher.exists_of_compileItems hparts hitem
    obtain ⟨property, name, written, hconsults, hrefuses⟩ :=
      consults_of_matcher_error hinnerParts hinner
    exact ⟨property, name, written, .listed hkey hmem hitem hconsults, hrefuses⟩
  cases Matcher.compiledEntry_of_compileEntry hpart with
  | any hkey hparts =>
    rw [hkey, entry] at hentry
    exact hlisted _ _ (Or.inl hkey) rfl hparts (Verdict.error_mem_of_any hentry)
  | all hkey hparts =>
    rw [hkey, entry] at hentry
    exact hlisted _ _ (Or.inr hkey) rfl hparts (Verdict.error_mem_of_all hentry)
  | not hkey hparts =>
    rw [hkey, entry] at hentry
    obtain ⟨property, name, written, hconsults, hrefuses⟩ :=
      consults_of_matcher_error hparts (Verdict.error_of_not hentry)
    exact ⟨property, name, written, .not (hkey ▸ hmem) hconsults, hrefuses⟩
  | property hkey hcondition =>
    rw [entry_property registry _ hkey] at hentry
    obtain ⟨name, written, hconsults, hrefuses⟩ := consults_of_condition_error hentry
    exact ⟨key, name, written, .property hmem hkey hconsults, hrefuses⟩
termination_by sizeOf (Json.object fields)
decreasing_by
  · exact hinnerLt
  · exact hlt

/-- The registry has the comparer in force. -/
def Registered (registry : Registry) (around : Enclosure) : Prop :=
  ∀ name, around.comparerName? = some name → ∃ comparer, registry.get? name = some comparer

/-- An object without a comparer's name leaves a registered comparer in force. -/
theorem Registered.cons_of_none {around : Enclosure} (h : Registered registry around)
    {operators : Dict Json} (hnone : Dict.find? comparerKey operators = none) :
    Registered registry (operators :: around) := by
  intro name hname
  refine h name ?_
  simpa only [Enclosure.comparerName?, List.findSome?_cons, hnone] using hname

/-- An object that compiles names a registered comparer, if it names one. -/
theorem Registered.cons_of_comparerWithin {around : Enclosure} (h : Registered registry around)
    {property : String} {operators : Dict Json} {comparer within : Option Comparer}
    (hwithin : Condition.comparerWithin registry property comparer operators = .ok within) :
    Registered registry (operators :: around) := by
  unfold Condition.comparerWithin at hwithin
  split at hwithin
  · next hnone => exact h.cons_of_none hnone
  · next named hnamed =>
    split at hwithin
    · next found hfound =>
      intro name hname
      simp only [Enclosure.comparerName?, List.findSome?_cons, hnamed] at hname
      cases hname
      exact ⟨found, hfound⟩
    · cases hwithin
  · cases hwithin

/-- A literal that compiles is understood by the comparer in force. -/
theorem understands_of_checkLiteral {around : Enclosure} (hregistered : Registered registry around)
    {property name : String} {written : Json} (hname : around.comparerName? = some name)
    (h : Condition.checkLiteral property (around.comparer? registry) written = .ok ()) :
    Understands registry name written := by
  obtain ⟨comparer, hcomparer⟩ := hregistered name hname
  have hforce : around.comparer? registry = some comparer := by
    rw [Enclosure.comparer?, hname, Option.bind_some, hcomparer]
  rw [hforce] at h
  obtain ⟨text, order, htext, horder⟩ := Condition.exists_text_of_checkLiteral h
  exact ⟨comparer, text, order, hcomparer, htext, horder⟩

/-- An operator that consults a comparer is not the name of one. -/
theorem OperatorConsults.ne_comparerKey {name : String} {written : Json} {around : Enclosure}
    {key : String} {argument : Json} (h : OperatorConsults name written around key argument) :
    key ≠ comparerKey := by
  cases h with
  | given _ hgiven =>
    cases hgiven with
    | alone relation => cases relation <;> decide
    | listed _ => decide
  | not _ => decide
  | condition hkey _ _ => rcases hkey with rfl | rfl <;> decide
  | operator hkey _ _ => rcases hkey with rfl | rfl <;> decide

variable {property name : String} {written : Json}

/-- A literal that a compiled operator is given is understood by the comparer in
force. -/
theorem understands_of_given {around : Enclosure} (hregistered : Registered registry around)
    (hname : around.comparerName? = some name) {key : String} {argument : Json}
    (hgiven : Given written key argument) {compiled : Condition}
    (h : Condition.compileOperator registry property (around.comparer? registry) key argument =
      .ok compiled) : Understands registry name written := by
  cases hgiven with
  | alone relation =>
    have hliteral := Condition.compileOperator_literal registry property
      (around.comparer? registry) written (.compares relation)
    rw [LiteralOperator.key] at hliteral
    rw [hliteral] at h
    obtain ⟨hcheck, -⟩ := Condition.compileComparison_eq_ok h
    exact understands_of_checkLiteral hregistered hname hcheck
  | @listed literals hmem =>
    have hliteral := Condition.compileOperator_literal registry property
      (around.comparer? registry) (.array literals) .among
    rw [LiteralOperator.key] at hliteral
    have hmembership : Condition.compileMembership property (around.comparer? registry)
        (.array literals) = .ok compiled := hliteral.symm.trans h
    obtain ⟨found, harray, hcheck, -⟩ := Condition.compileMembership_eq_ok hmembership
    cases harray
    exact understands_of_checkLiteral hregistered hname
      (Condition.checkLiteral_of_checkLiterals hcheck hmem)

-- Going down a compiled condition, the comparer in force stays a registered one.
mutual

/-- A comparer understands the literals that a compiled condition consults it about. -/
theorem understands_of_condition {around : Enclosure} (hregistered : Registered registry around)
    {argument : Json} {compiled : Condition}
    (hcompile : Condition.compile registry property (around.comparer? registry) argument =
      .ok compiled) (h : ConditionConsults name written around argument) :
    Understands registry name written := by
  cases h with
  | scalar hname hscalar =>
    rw [Condition.compile_of_isScalar hscalar] at hcompile
    obtain ⟨hcheck, -⟩ := Condition.compileComparison_eq_ok hcompile
    exact understands_of_checkLiteral hregistered hname hcheck
  | listed hname hmem =>
    rw [Condition.compile] at hcompile
    obtain ⟨literals, harray, hcheck, -⟩ := Condition.compileMembership_eq_ok hcompile
    cases harray
    exact understands_of_checkLiteral hregistered hname
      (Condition.checkLiteral_of_checkLiterals hcheck hmem)
  | operator hmem hoperator =>
    have hlt := Json.sizeOf_field_lt hmem
    obtain ⟨within, parts, hwithin, hparts, -⟩ := Condition.compile_object_eq_ok hcompile
    rw [← comparer?_cons_of_comparerWithin registry around hwithin] at hparts
    obtain ⟨part, hpart⟩ := Condition.exists_of_compileOperators hparts hmem
      (bne_iff_ne.mpr hoperator.ne_comparerKey)
    exact understands_of_operator (hregistered.cons_of_comparerWithin hwithin) hpart hoperator
termination_by (sizeOf argument, 0)

/-- So it does those that a compiled operator consults it about. -/
theorem understands_of_operator {around : Enclosure} (hregistered : Registered registry around)
    {key : String} {argument : Json} {compiled : Condition}
    (hcompile : Condition.compileOperator registry property (around.comparer? registry) key
      argument = .ok compiled) (h : OperatorConsults name written around key argument) :
    Understands registry name written := by
  cases h with
  | given hname hgiven => exact understands_of_given hregistered hname hgiven hcompile
  | not hcondition =>
    rw [Condition.compileOperator_not] at hcompile
    obtain ⟨part, hpart, -⟩ := Except.map_eq_ok_iff.mp hcompile
    exact understands_of_condition hregistered hpart hcondition
  | condition hkey hmem hcondition =>
    have hlt := Json.sizeOf_item_lt hmem
    obtain ⟨parts, hparts⟩ := Condition.exists_parts_of_compileOperator hkey hcompile
    obtain ⟨part, hpart⟩ := Condition.exists_of_compileAll hparts hmem
    exact understands_of_condition hregistered hpart hcondition
  | operator hkey hmem hoperator =>
    have hlt := Json.sizeOf_field_lt hmem
    obtain ⟨parts, hparts⟩ := Condition.exists_parts_of_compileOperator hkey hcompile
    have hnone := Condition.find?_comparerKey_of_compileOperators hparts
    obtain ⟨part, hpart⟩ := Condition.exists_of_compileOperators hparts hmem rfl
    rw [← comparer?_cons_of_none registry around hnone] at hpart
    exact understands_of_operator (hregistered.cons_of_none hnone) hpart hoperator
termination_by (sizeOf argument, 1)

end

/-- A comparer understands the literals that a compiled matcher consults it about. -/
theorem understands_of_matcher {fields : List (String × Json)} {compiled : List Matcher}
    (hcompile : Matcher.compileEntries registry fields = .ok compiled)
    (h : MatcherConsults property name written fields) :
    Understands registry name written := by
  induction h generalizing compiled with
  | property hmem hkey hcondition =>
    obtain ⟨part, hpart⟩ := Matcher.exists_of_compileEntries hcompile hmem
    obtain ⟨inner, hinner⟩ := Matcher.exists_condition_of_compileEntry hkey hpart
    have hregistered : Registered registry [] := by
      intro name hname
      cases hname
    exact understands_of_condition hregistered hinner hcondition
  | not hmem _ ih =>
    obtain ⟨part, hpart⟩ := Matcher.exists_of_compileEntries hcompile hmem
    obtain ⟨parts, hparts⟩ := Matcher.exists_entries_of_compileEntry hpart
    exact ih hparts
  | listed hkey hmem hitem _ ih =>
    obtain ⟨part, hpart⟩ := Matcher.exists_of_compileEntries hcompile hmem
    obtain ⟨parts, hparts⟩ := Matcher.exists_items_of_compileEntry hkey hpart
    obtain ⟨inner, hinner⟩ := Matcher.exists_of_compileItems hparts hitem
    exact ih hinner

end Reading

end Rulebook
