import Rulebook.Proofs.Evaluation.Results
import Rulebook.Proofs.Json.KeyOrder
import Rulebook.Proofs.RuleTree.Leaves

/-!
# The rules of a document

A text writes a document, and the document has the rules of all its lists. What
the compiled document gives to a context, apart from its default value, and every
failure of an evaluation come from one of these rules.
-/

namespace Rulebook

namespace WrittenDocument

/-- A text writes a document. -/
def WrittenBy (written : WrittenDocument) (text : String) : Prop :=
  ∃ json, Json.read? text = some json ∧ read json = .ok written

/-- A text writes one document at most. -/
theorem WrittenBy.unique {one other : WrittenDocument} {text : String}
    (hone : one.WrittenBy text) (hother : other.WrittenBy text) : one = other := by
  obtain ⟨json, hjson, hread⟩ := hone
  obtain ⟨found, hfound, hreadFound⟩ := hother
  rw [hjson] at hfound
  cases hfound
  rw [hread] at hreadFound
  cases hreadFound
  rfl

/-- The rules behind one field are those before it or stand in the field. -/
theorem rules_of_readField {start next : WrittenDocument} {name : String} {value rules : Json}
    (h : readField start name value = .ok next) (hrules : next.rules = some rules) :
    start.rules = some rules ∨ value = rules := by
  unfold readField at h
  split at h
  · obtain ⟨partitions, -, h⟩ := Except.bind_eq_ok_iff.mp h
    cases h
    exact Or.inl hrules
  · cases h
    exact Or.inr (Option.some.inj hrules)
  · cases h
    exact Or.inl hrules
  · obtain ⟨valueType, -, h⟩ := Except.bind_eq_ok_iff.mp h
    cases h
    exact Or.inl hrules
  · cases h
    exact Or.inl hrules

/-- The rules behind some fields are those before them or stand in one of them. -/
theorem rules_of_readFields {fields : List (String × Json)} {start final : WrittenDocument}
    (h : fields.foldlM (fun document field => readField document field.1 field.2) start =
      .ok final) {rules : Json} (hrules : final.rules = some rules) :
    start.rules = some rules ∨ ∃ field ∈ fields, field.2 = rules := by
  induction fields generalizing start with
  | nil =>
    cases h
    exact Or.inl hrules
  | cons field rest ih =>
    obtain ⟨next, hnext, hrest⟩ := Except.bind_eq_ok_iff.mp h
    rcases ih hrest with hold | ⟨other, hmem, hother⟩
    · rcases rules_of_readField hnext hold with hstart | hfield
      · exact Or.inl hstart
      · exact Or.inr ⟨field, List.mem_cons_self, hfield⟩
    · exact Or.inr ⟨other, List.mem_cons_of_mem _ hmem, hother⟩

/-- The rules that a text writes are in key order. -/
theorem WrittenBy.inKeyOrder {written : WrittenDocument} {text : String}
    (h : written.WrittenBy text) {rules : Json} (hrules : written.rules = some rules) :
    rules.InKeyOrder := by
  obtain ⟨json, hjson, hread⟩ := h
  have horder := Json.inKeyOrder_of_read? hjson
  cases json with
  | array items =>
    cases hread
    cases hrules
    exact horder
  | object fields =>
    rcases rules_of_readFields hread hrules with hnone | ⟨field, hmem, rfl⟩
    · cases hnone
    · exact horder.field hmem
  | null | bool _ | number _ | string _ => cases hread

/-- A document has a rule in one of its lists. -/
def HasRule (written : WrittenDocument) (rule : WrittenRule) : Prop :=
  ∃ rules, written.rules = some rules ∧
    ∃ leaf ∈ RuleTree.leaves written.partitions.length rules,
      ∃ items, leaf.written = .array items ∧ ∃ item ∈ items, WrittenRule.read item = .ok rule

end WrittenDocument

/-- A list compiles when each of its items writes a rule that does. -/
theorem Rule.compileAll_eq_ok_iff {registry : Registry} {declared : Option ValueType}
    {items : List Json} {rules : List Rule} :
    compileAll registry declared (.array items) = .ok rules ↔
      List.Forall₂ (fun item rule => ∃ written, WrittenRule.read item = .ok written ∧
        compile registry declared written = .ok rule) items rules := by
  rw [compileAll]
  simp only [Except.bind_eq_ok_iff, Except.mapError_eq_ok_iff, Shape.list, Except.mapM_eq_ok_iff]
  constructor
  · rintro ⟨sources, hread, hcompiled⟩
    induction hread generalizing rules with
    | nil =>
      cases hcompiled
      exact .nil
    | cons hfirst _ ih =>
      cases hcompiled with
      | cons hrule hrest => exact .cons ⟨_, hfirst, hrule⟩ (ih hrest)
  · intro h
    induction h with
    | nil => exact ⟨[], .nil, .nil⟩
    | cons hfirst _ ih =>
      obtain ⟨written, hread, hrule⟩ := hfirst
      obtain ⟨sources, hreads, hrules⟩ := ih
      exact ⟨written :: sources, .cons hread hreads, .cons hrule hrules⟩

/-- Only a list compiles to rules. -/
theorem Rule.exists_items_of_compileAll {registry : Registry} {declared : Option ValueType}
    {list : Json} {rules : List Rule} (h : compileAll registry declared list = .ok rules) :
    ∃ items, list = .array items := by
  obtain ⟨sources, hsources, -⟩ := Except.bind_eq_ok_iff.mp h
  replace hsources := Except.mapError_eq_ok_iff.mp hsources
  cases list with
  | array items => exact ⟨items, rfl⟩
  | null | bool _ | number _ | string _ | object _ => cases hsources

/-- The rules of a compiled list are those that its items write. -/
theorem Rule.exists_written_of_mem {registry : Registry} {declared : Option ValueType}
    {list : Json} {rules : List Rule} (h : compileAll registry declared list = .ok rules)
    {rule : Rule} (hmem : rule ∈ rules) :
    ∃ items, list = .array items ∧ ∃ item ∈ items, ∃ written,
      WrittenRule.read item = .ok written ∧ compile registry declared written = .ok rule := by
  obtain ⟨items, rfl⟩ := exists_items_of_compileAll h
  obtain ⟨item, hitem, source, hread, hrule⟩ := (compileAll_eq_ok_iff.mp h).exists_left hmem
  exact ⟨items, rfl, item, hitem, source, hread, hrule⟩

/-- Every item of a list that compiles writes a rule that does so itself. -/
theorem Rule.exists_compiled_of_mem {registry : Registry} {declared : Option ValueType}
    {items : List Json} {rules : List Rule}
    (h : compileAll registry declared (.array items) = .ok rules) {item : Json}
    (hmem : item ∈ items) {written : WrittenRule} (hread : WrittenRule.read item = .ok written) :
    ∃ rule, compile registry declared written = .ok rule := by
  obtain ⟨rule, -, source, hsource, hrule⟩ := (compileAll_eq_ok_iff.mp h).exists_right hmem
  rw [hread] at hsource
  cases hsource
  exact ⟨rule, hrule⟩

/-- A written rule has an outcome: that of a rule with one variant or with several, whichever
it is. -/
inductive Rule.HasOutcome (declared : Option ValueType) (written : WrittenRule)
    (outcome : Outcome) : Prop where
  /-- The rule has one variant. -/
  | single (hvariants : written.variants = .single)
      (houtcome : compileFixed declared written = .ok outcome) : HasOutcome declared written outcome
  /-- The rule has several variants. -/
  | multiple (hvariants : written.variants = .multiple)
      (houtcome : compileShared declared written = .ok outcome) : HasOutcome declared written outcome

/-- A rule compiles when its matcher does and it has an outcome. -/
theorem Rule.compile_eq_ok {registry : Registry} {declared : Option ValueType}
    {written : WrittenRule} {rule : Rule} (h : compile registry declared written = .ok rule) :
    Matcher.compile registry written.matcher = .ok rule.matcher ∧
      HasOutcome declared written rule.outcome := by
  obtain ⟨matcher, hmatcher, h⟩ := Except.bind_eq_ok_iff.mp h
  dsimp only at h
  split at h
  · next hvariants =>
    obtain ⟨outcome, houtcome, h⟩ := Except.bind_eq_ok_iff.mp h
    cases h
    exact ⟨hmatcher, .single hvariants houtcome⟩
  · next hvariants =>
    obtain ⟨outcome, houtcome, h⟩ := Except.bind_eq_ok_iff.mp h
    cases h
    exact ⟨hmatcher, .multiple hvariants houtcome⟩

/-- A rule compiles if its matcher does and it has an outcome. -/
theorem Rule.compile_of_outcome {registry : Registry} {declared : Option ValueType}
    {written : WrittenRule} {matcher : Matcher} {outcome : Outcome}
    (hmatcher : Matcher.compile registry written.matcher = .ok matcher)
    (houtcome : HasOutcome declared written outcome) :
    compile registry declared written = .ok ⟨matcher, outcome⟩ := by
  rw [compile, hmatcher, Except.ok_bind]
  rcases houtcome with ⟨hvariants, houtcome⟩ | ⟨hvariants, houtcome⟩
  · rw [hvariants]
    dsimp only
    rw [houtcome]
    rfl
  · rw [hvariants]
    dsimp only
    rw [houtcome]
    rfl

/-- A rule with one variant compiles if it has a value that is of the declared type. -/
theorem Rule.compileFixed_eq_ok_iff {declared : Option ValueType} {written : WrittenRule}
    {outcome : Outcome} :
    compileFixed declared written = .ok outcome ↔
      ∃ value, written.value = some value ∧
        CompileError.checkDeclared declared value = .ok () ∧ outcome = .fixed value := by
  constructor
  · intro h
    unfold compileFixed at h
    split at h
    · cases h
    · next value hvalue =>
      obtain ⟨_, hcheck, h⟩ := Except.bind_eq_ok_iff.mp h
      cases h
      exact ⟨value, hvalue, hcheck, rfl⟩
  · rintro ⟨value, hvalue, hcheck, rfl⟩
    simp only [compileFixed, hvalue, hcheck, Except.ok_bind]
    rfl

/-- A rule with one variant gives a fixed value. -/
theorem Rule.exists_fixed_of_compileFixed {declared : Option ValueType} {written : WrittenRule}
    {outcome : Outcome} (h : compileFixed declared written = .ok outcome) :
    ∃ value, outcome = .fixed value := by
  obtain ⟨value, -, -, houtcome⟩ := compileFixed_eq_ok_iff.mp h
  exact ⟨value, houtcome⟩

/-- A rule with several variants compiles if it has a type of owners, a salt or name, and a
distribution that compiles with values of the declared type. -/
theorem Rule.compileShared_eq_ok_iff {declared : Option ValueType} {written : WrittenRule}
    {outcome : Outcome} :
    compileShared declared written = .ok outcome ↔
      ∃ ownerType salt source distribution, written.ownerType = some ownerType ∧
        written.salt.or written.id = some salt ∧ written.distribution = some source ∧
        Distribution.compile declared source = .ok distribution ∧
        checkShares declared distribution.buckets = .ok () ∧
        outcome = .shared ownerType salt distribution := by
  constructor
  · intro h
    unfold compileShared at h
    split at h
    · cases h
    · next ownerType howner =>
      split at h
      · cases h
      · next salt hsalt =>
        split at h
        · cases h
        · next source hsource =>
          obtain ⟨distribution, hdistribution, h⟩ := Except.bind_eq_ok_iff.mp h
          obtain ⟨_, hcheck, h⟩ := Except.bind_eq_ok_iff.mp h
          cases h
          exact ⟨ownerType, salt, source, distribution, howner, hsalt, hsource, hdistribution,
            hcheck, rfl⟩
  · rintro ⟨ownerType, salt, source, distribution, howner, hsalt, hsource, hdistribution, hcheck,
      rfl⟩
    simp only [compileShared, howner, hsalt, hsource, hdistribution, hcheck, Except.ok_bind]
    rfl

/-- A rule with several variants gives shares of a compiled distribution, to owners of the
written type with the written salt or else the name of the rule. -/
theorem Rule.exists_shared_of_compileShared {declared : Option ValueType} {written : WrittenRule}
    {outcome : Outcome} (h : compileShared declared written = .ok outcome) :
    ∃ ownerType salt source distribution, written.ownerType = some ownerType ∧
      written.salt.or written.id = some salt ∧ written.distribution = some source ∧
      Distribution.compile declared source = .ok distribution ∧
      outcome = .shared ownerType salt distribution := by
  obtain ⟨ownerType, salt, source, distribution, howner, hsalt, hsource, hdistribution, -,
    houtcome⟩ := compileShared_eq_ok_iff.mp h
  exact ⟨ownerType, salt, source, distribution, howner, hsalt, hsource, hdistribution, houtcome⟩

namespace Document

/-- A document is what a written one compiles to. -/
structure CompiledFrom (registry : Registry) (written : WrittenDocument)
    (document : Document) : Prop where
  /-- The partitions are the written ones. -/
  partitions : document.partitions = written.partitions
  /-- The default value is the written one. -/
  defaultValue : document.defaultValue = written.defaultValue
  /-- The default value is of the declared type. -/
  checked : checkDefault written = .ok ()
  /-- The rules compile. -/
  rules : ∃ rules, written.rules = some rules ∧
    RuleTree.compile registry written.valueType written.partitions.length rules =
      .ok document.rules

/-- A text compiles as the value read from it does. -/
theorem compile_of_read? (registry : Registry) {text : String} {json : Json}
    (h : Json.read? text = some json) : compile registry text = compileJson registry json := by
  rw [compile, h]

/-- A text that compiles writes a document, and the result is what that one
compiles to. -/
theorem exists_written_of_compile {registry : Registry} {text : String} {document : Document}
    (h : compile registry text = .ok document) :
    ∃ written : WrittenDocument, written.WrittenBy text ∧
      CompiledFrom registry written document := by
  unfold compile at h
  split at h
  · cases h
  · next json hjson =>
    obtain ⟨written, hread, h⟩ := Except.bind_eq_ok_iff.mp h
    replace hread := Except.mapError_eq_ok_iff.mp hread
    refine ⟨written, ⟨json, hjson, hread⟩, ?_⟩
    unfold compileWritten at h
    split at h
    · cases h
    · next rules hrules =>
      obtain ⟨_, hchecked, h⟩ := Except.bind_eq_ok_iff.mp h
      obtain ⟨tree, htree, h⟩ := Except.bind_eq_ok_iff.mp h
      cases h
      exact ⟨rfl, rfl, hchecked, rules, hrules, htree⟩

/-- The result of compiling a text is what the document that it writes compiles to. -/
theorem compiledFrom_of_writtenBy {registry : Registry} {text : String} {written : WrittenDocument}
    {document : Document} (hwritten : written.WrittenBy text)
    (h : compile registry text = .ok document) : CompiledFrom registry written document := by
  obtain ⟨found, hfound, hfrom⟩ := exists_written_of_compile h
  rw [hwritten.unique hfound]
  exact hfrom

/-- A text compiles if the rules that it writes do and its default value is of the declared
type. -/
theorem compile_of_writtenBy {registry : Registry} {written : WrittenDocument} {text : String}
    (hwritten : written.WrittenBy text) (hchecked : checkDefault written = .ok ()) {rules : Json}
    (hrules : written.rules = some rules) {tree : RuleTree}
    (htree : RuleTree.compile registry written.valueType written.partitions.length rules =
      .ok tree) :
    compile registry text = .ok ⟨written.partitions, tree, written.defaultValue⟩ := by
  obtain ⟨json, hjson, hread⟩ := hwritten
  rw [compile_of_read? registry hjson, compileJson, hread]
  simp only [Except.mapError, Except.ok_bind, compileWritten, hrules, hchecked, htree]
  rfl

/-- Every rule of a compiled document is one that the written document has. -/
theorem CompiledFrom.exists_written {registry : Registry} {written : WrittenDocument}
    {document : Document} (h : CompiledFrom registry written document) {rule : Rule}
    (hrule : document.rules.HasRule rule) :
    ∃ source, written.HasRule source ∧
      Rule.compile registry written.valueType source = .ok rule := by
  obtain ⟨rules, hrules, htree⟩ := h.rules
  obtain ⟨leaf, hleaf, list, hlist, hmem⟩ := RuleTree.exists_leaf_of_hasRule htree hrule
  obtain ⟨items, hitems, item, hitem, source, hread, hsource⟩ :=
    Rule.exists_written_of_mem hlist hmem
  exact ⟨source, ⟨rules, hrules, leaf, hleaf, items, hitems, item, hitem, hread⟩, hsource⟩

/-- Every rule that the written document has compiles with it. -/
theorem CompiledFrom.exists_compiled {registry : Registry} {written : WrittenDocument}
    {document : Document} (h : CompiledFrom registry written document) {source : WrittenRule}
    (hsource : written.HasRule source) :
    ∃ rule, Rule.compile registry written.valueType source = .ok rule := by
  obtain ⟨rules, hrules, leaf, hleaf, items, hitems, item, hitem, hread⟩ := hsource
  obtain ⟨found, hfound, htree⟩ := h.rules
  rw [hrules] at hfound
  cases hfound
  obtain ⟨list, hlist⟩ := RuleTree.exists_rules_of_mem_leaves htree hleaf
  rw [hitems] at hlist
  exact Rule.exists_compiled_of_mem hlist hitem hread

end Document

/-- A list of rules that answers does so with one of its rules. -/
theorem Rule.exists_of_runFirst {lookup : Lookup} {hasher : Hasher} {rules : List Rule}
    {answer : Answer} (h : (runFirst lookup hasher rules).result = answer)
    (hdecided : answer ≠ .ok none) :
    ∃ rule ∈ rules, (rule.run lookup hasher).result = answer := by
  induction rules with
  | nil => exact absurd h.symm hdecided
  | cons rule rest ih =>
    rw [result_runFirst_cons] at h
    by_cases hrule : (rule.run lookup hasher).result = .ok none
    · rw [hrule, Answer.none_orElse] at h
      obtain ⟨other, hmem, hother⟩ := ih h
      exact ⟨other, List.mem_cons_of_mem _ hmem, hother⟩
    · rw [Answer.orElse_of_ne hrule] at h
      exact ⟨rule, List.mem_cons_self, h⟩

namespace RuleTree

/-- A tree that answers does so with one of its rules. -/
theorem exists_rule_of_run {lookup : Lookup} {hasher : Hasher} {partitions : List String}
    {tree : RuleTree} {answer : Answer}
    (h : (run lookup hasher partitions tree).result = answer) (hdecided : answer ≠ .ok none) :
    ∃ rule, tree.HasRule rule ∧ (rule.run lookup hasher).result = answer := by
  induction partitions generalizing tree with
  | nil =>
    cases tree with
    | leaf rules =>
      rw [run] at h
      obtain ⟨rule, hmem, hrule⟩ := Rule.exists_of_runFirst h hdecided
      exact ⟨rule, .leaf hmem, hrule⟩
    | branch exact fallback =>
      rw [run] at h
      exact absurd h.symm hdecided
  | cons partition partitions ih =>
    cases tree with
    | leaf rules =>
      rw [run] at h
      obtain ⟨rule, hmem, hrule⟩ := Rule.exists_of_runFirst h hdecided
      exact ⟨rule, .leaf hmem, hrule⟩
    | branch exact fallback =>
      rw [result_run_branch] at h
      by_cases hexact : answerBelow lookup hasher partitions
          ((contextKey lookup partition).bind fun key => Dict.find? key exact) = .ok none
      · rw [hexact, Answer.none_orElse] at h
        cases fallback with
        | none => exact absurd h.symm hdecided
        | some below =>
          obtain ⟨rule, hrule, hrun⟩ := ih h
          exact ⟨rule, .fallback hrule, hrun⟩
      · rw [Answer.orElse_of_ne hexact] at h
        cases hfound : (contextKey lookup partition).bind fun key => Dict.find? key exact with
        | none =>
          rw [hfound] at hexact
          exact absurd rfl hexact
        | some below =>
          rw [hfound] at h
          obtain ⟨key, -, hkey⟩ := Option.bind_eq_some_iff.mp hfound
          obtain ⟨rule, hrule, hrun⟩ := ih h
          exact ⟨rule, .exact (Dict.mem_of_find? hkey) hrule, hrun⟩

end RuleTree

namespace Document

/-- A failure of an evaluation is that of a rule of the document. -/
theorem exists_rule_of_evaluate_error {lookup : Lookup} {hasher : Hasher} {document : Document}
    {error : ComparisonError} (h : document.evaluate lookup hasher = .error error) :
    ∃ rule, document.rules.HasRule rule ∧ (rule.run lookup hasher).result = .error error := by
  rw [evaluate_eq] at h
  exact RuleTree.exists_rule_of_run (Except.map_eq_error_iff.mp h) (by simp)

end Document

end Rulebook
