import Rulebook.Proofs.Distribution.Declared
import Rulebook.Proofs.Document.Output
import Rulebook.Proofs.RuleTree.Matching

/-!
# Documents with a declared type

A type may be declared for the values of a document that declares none. The document then
compiles exactly if it did before and all its values are of the type, keys of weights
standing for such values; and every evaluation ends as before, with the value that a key
stands for in its place.
-/

namespace Rulebook

/-- A rule conforms to a type: its value is of the type, or its distribution conforms to it,
whichever the rule uses. -/
structure WrittenRule.Conforms (expected : ValueType) (rule : WrittenRule) : Prop where
  /-- The value of a rule with one variant is of the type. -/
  single : rule.variants = .single → ∀ value, rule.value = some value →
    expected.admits value = true
  /-- The distribution of a rule with several variants conforms to the type. -/
  multiple : rule.variants = .multiple → ∀ distribution, rule.distribution = some distribution →
    distribution.Conforms expected

/-- What a rule gives as one value without a declared type and as another with it: the same
value, unless its distribution shares out keys. -/
def WrittenRule.Coerces (expected : ValueType) (rule : WrittenRule) (value output : Json) : Prop :=
  value = output ∨ rule.variants = .multiple ∧ ∃ distribution,
    rule.distribution = some distribution ∧ distribution.Coerces expected value output

namespace WrittenDocument

/-- A document conforms to a type: its default value is of the type, if it has one, and all
its rules conform to it. -/
structure Conforms (expected : ValueType) (written : WrittenDocument) : Prop where
  /-- The default value is of the type. -/
  default : ∀ value, written.defaultValue = some value → expected.admits value = true
  /-- Every rule conforms. -/
  rules : ∀ rule, written.HasRule rule → rule.Conforms expected

/-- What a document gives as one value without a declared type and as another with it: the
same value, or what one of its rules so gives. -/
def Coerces (expected : ValueType) (written : WrittenDocument) (value output : Json) : Prop :=
  value = output ∨ ∃ rule, written.HasRule rule ∧ rule.Coerces expected value output

/-- The document with a declared type. -/
def declare (expected : ValueType) (written : WrittenDocument) : WrittenDocument :=
  { written with valueType := some expected }

/-- A field other than the type is read the same when the type is declared. -/
theorem readField_declare (expected : ValueType) (written : WrittenDocument) {name : String}
    (hname : name ≠ "valueType") (value : Json) :
    readField (written.declare expected) name value =
      (readField written name value).map (declare expected) := by
  unfold readField
  split
  · cases Shape.list Shape.text value <;> rfl
  · rfl
  · rfl
  · exact absurd rfl hname
  · rfl

/-- Fields without the type are read the same when the type is declared. -/
theorem readFields_declare (expected : ValueType) {fields : Dict Json}
    (hfree : ∀ field ∈ fields, field.1 ≠ "valueType") (start : WrittenDocument) :
    fields.foldlM (fun document field => readField document field.1 field.2)
        (start.declare expected) =
      (fields.foldlM (fun document field => readField document field.1 field.2) start).map
        (declare expected) := by
  induction fields generalizing start with
  | nil => rfl
  | cons field rest ih =>
    obtain ⟨hfield, hrest⟩ := List.forall_mem_cons.mp hfree
    rw [List.foldlM_cons, List.foldlM_cons, readField_declare expected start hfield]
    cases readField start field.1 field.2 with
    | error error => rfl
    | ok next => exact ih hrest next

/-- A field with a type declares it. -/
theorem readField_valueType {expected : ValueType} {spelled : Json}
    (hspelled : Shape.choice ValueType.named spelled = .ok expected) (start : WrittenDocument) :
    readField start "valueType" spelled = .ok (start.declare expected) := by
  have hoptional : Shape.optional (Shape.choice ValueType.named) spelled = .ok (some expected) := by
    cases spelled with
    | null => cases hspelled
    | bool _ | number _ | string _ | array _ | object _ =>
      exact Except.map_eq_ok_iff.mpr ⟨expected, hspelled, rfl⟩
  simp only [readField, hoptional, Except.ok_bind]
  rfl

/-- A field with a type declares it, wherever it stands among the others. -/
theorem readFields_insert {expected : ValueType} {spelled : Json} {fields : Dict Json}
    (hfree : ∀ field ∈ fields, field.1 ≠ "valueType")
    (hspelled : Shape.choice ValueType.named spelled = .ok expected) (start : WrittenDocument) :
    (Dict.insert "valueType" spelled fields).foldlM
        (fun document field => readField document field.1 field.2) start =
      (fields.foldlM (fun document field => readField document field.1 field.2) start).map
        (declare expected) := by
  have hfield := readField_valueType hspelled
  induction fields generalizing start with
  | nil =>
    rw [Dict.insert, List.foldlM_cons, hfield]
    rfl
  | cons field rest ih =>
    obtain ⟨name, value⟩ := field
    obtain ⟨hname, hrest⟩ := List.forall_mem_cons.mp hfree
    rw [Dict.insert, if_neg fun h => hname h.symm]
    split_ifs
    · rw [List.foldlM_cons, hfield, Except.ok_bind, readFields_declare expected hfree]
    · rw [List.foldlM_cons, List.foldlM_cons]
      cases readField start name value with
      | error error => rfl
      | ok next => exact ih hrest next

/-- Fields without the type declare none. -/
theorem valueType_of_readFields {fields : Dict Json}
    (hfree : ∀ field ∈ fields, field.1 ≠ "valueType") {start final : WrittenDocument}
    (h : fields.foldlM (fun document field => readField document field.1 field.2) start =
      .ok final) : final.valueType = start.valueType := by
  induction fields generalizing start with
  | nil =>
    cases h
    rfl
  | cons field rest ih =>
    obtain ⟨name, value⟩ := field
    obtain ⟨hname, hrest⟩ := List.forall_mem_cons.mp hfree
    obtain ⟨next, hnext, hfinal⟩ := Except.bind_eq_ok_iff.mp h
    replace hnext : readField start name value = .ok next := hnext
    rw [ih hrest hfinal]
    unfold readField at hnext
    split at hnext
    · obtain ⟨_, -, hnext⟩ := Except.bind_eq_ok_iff.mp hnext
      cases hnext
      rfl
    · cases hnext
      rfl
    · cases hnext
      rfl
    · exact absurd rfl hname
    · cases hnext
      rfl

variable {text other : String} {fields : Dict Json}

/-- A text without the type writes a document that declares none. -/
theorem WrittenBy.valueType_eq_none {written : WrittenDocument} (h : written.WrittenBy text)
    (hread : Json.read? text = some (.object fields))
    (hundeclared : Dict.find? "valueType" fields = none) : written.valueType = none := by
  obtain ⟨json, hjson, hwritten⟩ := h
  rw [hread] at hjson
  cases hjson
  exact valueType_of_readFields (Dict.ne_of_find?_eq_none hundeclared) hwritten

/-- A text that has a field with a type beside those of another one writes the same document
with the type declared. -/
theorem writtenBy_declare_iff {spelled : Json} {expected : ValueType}
    (hread : Json.read? text = some (.object fields))
    (hundeclared : Dict.find? "valueType" fields = none)
    (hspelled : Shape.choice ValueType.named spelled = .ok expected)
    (hother : Json.read? other = some (.object (Dict.insert "valueType" spelled fields)))
    {typed : WrittenDocument} :
    typed.WrittenBy other ↔
      ∃ written : WrittenDocument, written.WrittenBy text ∧ typed = written.declare expected := by
  have hapart := Dict.ne_of_find?_eq_none hundeclared
  constructor
  · rintro ⟨json, hjson, htyped⟩
    rw [hother] at hjson
    cases hjson
    rw [read, readFields_insert hapart hspelled] at htyped
    obtain ⟨written, hwritten, rfl⟩ := Except.map_eq_ok_iff.mp htyped
    exact ⟨written, ⟨_, hread, hwritten⟩, rfl⟩
  · rintro ⟨written, ⟨json, hjson, hwritten⟩, rfl⟩
    rw [hread] at hjson
    cases hjson
    refine ⟨_, hother, ?_⟩
    rw [read, readFields_insert hapart hspelled]
    exact Except.map_eq_ok_iff.mpr ⟨written, hwritten, rfl⟩

end WrittenDocument

/-- Two answers match: they are the same failure, no value, or two values in a relation. -/
inductive Answer.Match (R : Json → Json → Prop) : Answer → Answer → Prop where
  /-- Both fail for the same text. -/
  | failed (error : ComparisonError) : Match R (.error error) (.error error)
  /-- There is no value in either. -/
  | absent : Match R (.ok none) (.ok none)
  /-- Each has a value. -/
  | given {value output : Json} (h : R value output) :
      Match R (.ok (some value)) (.ok (some output))

namespace Answer

variable {R : Json → Json → Prop}

theorem Match.of_rel {found other : Option Json} (h : Option.Rel R found other) :
    Match R (.ok found) (.ok other) := by
  cases h with
  | some hvalue => exact .given hvalue
  | none => exact .absent

theorem Match.mono {S : Json → Json → Prop} (hRS : ∀ value output, R value output → S value output)
    {first other : Answer} (h : Match R first other) : Match S first other := by
  cases h with
  | failed error => exact .failed error
  | absent => exact .absent
  | given hvalue => exact .given (hRS _ _ hvalue)

theorem Match.orElse {first second other last : Answer} (hfirst : Match R first other)
    (hsecond : Match R second last) : Match R (first.orElse second) (other.orElse last) := by
  cases hfirst with
  | failed error => exact .failed error
  | absent => exact hsecond
  | given hvalue => exact .given hvalue

/-- Answers that match do so with a default value. -/
theorem Match.orDefault {first other : Answer} (h : Match R first other)
    (hsame : ∀ value, R value value) (default : Option Json) :
    Match R (first.map (·.or default)) (other.map (·.or default)) := by
  cases h with
  | failed error => exact .failed error
  | absent =>
    cases default with
    | none => exact .absent
    | some value => exact .given (hsame value)
  | given hvalue => exact .given hvalue

end Answer

namespace Rule

variable {registry : Registry} {expected : ValueType} {written : WrittenRule}

/-- An outcome of the declared type is that of a rule that conforms to it. Without the type
the rule has an outcome too, and gives the same up to the values of keys. -/
theorem conforms_of_outcome {typed : Outcome} (h : HasOutcome (some expected) written typed) :
    written.Conforms expected ∧ ∃ outcome : Outcome, HasOutcome none written outcome ∧
      ∀ lookup hasher, Option.Rel (written.Coerces expected) (outcome.given lookup hasher)
        (typed.given lookup hasher) := by
  rcases h with ⟨hvariants, h⟩ | ⟨hvariants, h⟩
  · obtain ⟨value, hvalue, hcheck, rfl⟩ := compileFixed_eq_ok_iff.mp h
    refine ⟨⟨fun _ other hother => ?_, fun hmultiple => ?_⟩, .fixed value,
      .single hvariants (compileFixed_eq_ok_iff.mpr ⟨value, hvalue, rfl, rfl⟩), fun _ _ => ?_⟩
    · rw [hvalue] at hother
      cases hother
      exact CompileError.checkType_eq_ok_iff.mp hcheck
    · rw [hvariants] at hmultiple
      cases hmultiple
    · exact .some (Or.inl rfl)
  · obtain ⟨ownerType, salt, source, distribution, howner, hsalt, hsource, hdistribution, hcheck,
      rfl⟩ := compileShared_eq_ok_iff.mp h
    have hadmits : ∀ bucket ∈ distribution.buckets, expected.admits bucket.value = true :=
      fun bucket hmem =>
        CompileError.checkType_eq_ok_iff.mp (checkShares_eq_ok_iff.mp hcheck bucket hmem)
    obtain ⟨hconforms, plain, hplain, hpick⟩ :=
      Distribution.conforms_of_compile hdistribution hadmits
    refine ⟨⟨fun hsingle => ?_, fun _ other hother => ?_⟩, .shared ownerType salt plain,
      .multiple hvariants (compileShared_eq_ok_iff.mpr ⟨ownerType, salt, source, plain, howner, hsalt,
        hsource, hplain, checkShares_eq_ok_iff.mpr fun _ _ => rfl, rfl⟩), fun lookup hasher => ?_⟩
    · rw [hvariants] at hsingle
      cases hsingle
    · rw [hsource] at hother
      cases hother
      exact hconforms
    · simp only [Outcome.given]
      cases (lookup (ownerProperty ownerType)).bind Json.text? with
      | none => exact .none
      | some owner =>
        exact (hpick _).mono fun value output hvalue =>
          Or.inr ⟨hvariants, source, hsource, hvalue⟩

/-- A rule that conforms to a type has an outcome of the type, if it has one without it. -/
theorem exists_outcome_of_conforms {outcome : Outcome} (h : HasOutcome none written outcome)
    (hconforms : written.Conforms expected) :
    ∃ typed : Outcome, HasOutcome (some expected) written typed := by
  rcases h with ⟨hvariants, h⟩ | ⟨hvariants, h⟩
  · obtain ⟨value, hvalue, -, -⟩ := compileFixed_eq_ok_iff.mp h
    have hcheck := CompileError.checkType_eq_ok_iff.mpr (hconforms.single hvariants value hvalue)
    exact ⟨_, .single hvariants (compileFixed_eq_ok_iff.mpr ⟨value, hvalue, hcheck, rfl⟩)⟩
  · obtain ⟨ownerType, salt, source, distribution, howner, hsalt, hsource, hdistribution, -, -⟩ :=
      compileShared_eq_ok_iff.mp h
    obtain ⟨typed, htyped, hadmits⟩ := Distribution.exists_compile_of_conforms hdistribution
      (hconforms.multiple hvariants source hsource)
    have hcheck : checkShares (some expected) typed.buckets = .ok () :=
      checkShares_eq_ok_iff.mpr fun bucket hmem =>
        CompileError.checkType_eq_ok_iff.mpr (hadmits bucket hmem)
    exact ⟨_, .multiple hvariants (compileShared_eq_ok_iff.mpr
      ⟨ownerType, salt, source, typed, howner, hsalt, hsource, htyped, hcheck, rfl⟩)⟩

theorem conforms_of_compile {typed : Rule}
    (h : compile registry (some expected) written = .ok typed) : written.Conforms expected :=
  (conforms_of_outcome (compile_eq_ok h).2).1

/-- A rule that compiles with a declared type does so without it, and gives the same up to
the values of keys. -/
theorem exists_compile_of_typed {typed : Rule}
    (h : compile registry (some expected) written = .ok typed) (lookup : Lookup)
    (hasher : Hasher) :
    ∃ rule, compile registry none written = .ok rule ∧
      Answer.Match (written.Coerces expected) (rule.run lookup hasher).result
        (typed.run lookup hasher).result := by
  obtain ⟨hmatcher, houtcome⟩ := compile_eq_ok h
  obtain ⟨-, outcome, hplain, hgiven⟩ := conforms_of_outcome houtcome
  refine ⟨_, compile_of_outcome hmatcher hplain, ?_⟩
  rw [result_run, result_run]
  dsimp only
  cases typed.matcher.eval lookup with
  | error error => exact .failed error
  | ok matched =>
    cases matched with
    | false => exact .absent
    | true => exact .of_rel (hgiven lookup hasher)

/-- A rule that compiles does so with a declared type that it conforms to. -/
theorem exists_compile_of_conforms {rule : Rule} (h : compile registry none written = .ok rule)
    (hconforms : written.Conforms expected) :
    ∃ typed, compile registry (some expected) written = .ok typed := by
  obtain ⟨hmatcher, houtcome⟩ := compile_eq_ok h
  obtain ⟨outcome, htyped⟩ := exists_outcome_of_conforms houtcome hconforms
  exact ⟨_, compile_of_outcome hmatcher htyped⟩

end Rule

namespace RuleTree

variable {alike : Answer → Answer → Prop} {registry : Registry}
  {declared redeclared : Option ValueType} (lookup : Lookup) (hasher : Hasher)
  {kept : WrittenRule → Prop}

/-- The same rules below as many partitions as `depth` says, all of some sort. -/
def SameRules (kept : WrittenRule → Prop) (depth : Nat) (written other : Json) : Prop :=
  other = written ∧ ∀ leaf ∈ leaves depth written, ∀ items, leaf.written = .array items →
    ∀ item ∈ items, ∀ rule, WrittenRule.read item = .ok rule → kept rule

/-- A tree compiles with another declared type if its rules do, and answers alike if they
do. -/
theorem exists_compile_of_sameRules (halike : Answer.Congruence alike)
    (hrule : ∀ written, kept written → ∀ rule, Rule.compile registry declared written = .ok rule →
      ∃ renewed, Rule.compile registry redeclared written = .ok renewed ∧
        alike (rule.run lookup hasher).result (renewed.run lookup hasher).result)
    {partitions : List String} {written : Json}
    (hkept : SameRules kept partitions.length written written) {tree : RuleTree}
    (hcompile : compile registry declared partitions.length written = .ok tree) :
    ∃ renewed, compile registry redeclared partitions.length written = .ok renewed ∧
      alike (run lookup hasher partitions tree).result
        (run lookup hasher partitions renewed).result := by
  refine exists_compile_of_relates hasher halike
    (fun list other (hleaf : SameRules kept 0 list other) rules hrules => ?_)
    (fun depth children other (hchildren : SameRules kept (depth + 1) _ other) => ?_)
    (List.forall₂_same.mpr fun _ _ => rfl) hkept hcompile
  · obtain ⟨rfl, hitems⟩ := hleaf
    obtain ⟨items, rfl⟩ := Rule.exists_items_of_compileAll hrules
    have hsame : List.Forall₂ (fun item other => other = item ∧ ∀ rule,
        WrittenRule.read item = .ok rule → kept rule) items items :=
      List.forall₂_same.mpr fun item hmem =>
        ⟨rfl, hitems ⟨[], .array items⟩ (List.mem_singleton_self _) items rfl item hmem⟩
    refine Rule.exists_compileAll_of_relates hasher halike ?_ hsame hrules
    rintro item _ ⟨rfl, hitem⟩ source hread rule hcompiled
    obtain ⟨renewed, hrenewed, hsame⟩ := hrule source (hitem source hread) rule hcompiled
    exact ⟨source, renewed, hread, hrenewed, hsame⟩
  · obtain ⟨rfl, hleaves⟩ := hchildren
    refine ⟨children, rfl, List.forall₂_same.mpr fun child hchild => ⟨rfl, rfl, ?_⟩⟩
    exact fun leaf hleaf => hleaves (leaf.below child.1) (mem_leaves_of_child hchild hleaf)

end RuleTree

namespace Document

variable {registry : Registry} {expected : ValueType} {written : WrittenDocument}

/-- The rules of a document are those of its tree. -/
theorem sameRules {rules : Json} (hrules : written.rules = some rules) :
    RuleTree.SameRules written.HasRule written.partitions.length rules rules :=
  ⟨rfl, fun leaf hleaf items hitems item hitem _ hrule =>
    ⟨rules, hrules, leaf, hleaf, items, hitems, item, hitem, hrule⟩⟩

/-- The default value passes the check of a declared type if it is of the type. -/
theorem checkDefault_declare_iff :
    checkDefault (written.declare expected) = .ok () ↔
      ∀ value, written.defaultValue = some value → expected.admits value = true := by
  unfold checkDefault WrittenDocument.declare
  cases hdefault : written.defaultValue with
  | none => exact ⟨fun _ value hvalue => absurd hvalue (by simp), fun _ => rfl⟩
  | some value =>
    refine CompileError.checkType_eq_ok_iff.trans ⟨fun h other hother => ?_, fun h => h value rfl⟩
    cases hother
    exact h

/-- What a document with a declared type compiles to conforms to it. -/
theorem CompiledFrom.conforms {typed : Document}
    (h : CompiledFrom registry (written.declare expected) typed) : written.Conforms expected := by
  refine ⟨checkDefault_declare_iff.mp h.checked, fun rule hrule => ?_⟩
  obtain ⟨compiled, hcompiled⟩ := h.exists_compiled hrule
  exact Rule.conforms_of_compile hcompiled

/-- A document with a declared type compiles without it too, and every evaluation ends the
same up to the values of keys. -/
theorem exists_compile_of_typed {text : String} (hwritten : written.WrittenBy text)
    (hnone : written.valueType = none) {typed : Document}
    (h : CompiledFrom registry (written.declare expected) typed) (lookup : Lookup)
    (hasher : Hasher) :
    ∃ document, compile registry text = .ok document ∧
      Answer.Match (written.Coerces expected) (document.evaluate lookup hasher)
        (typed.evaluate lookup hasher) := by
  obtain ⟨rules, hrules, htree⟩ := h.rules
  have hcongruence : Answer.Congruence fun typed plain =>
      Answer.Match (written.Coerces expected) plain typed := ⟨.absent, .orElse⟩
  have hrule : ∀ source, written.HasRule source → ∀ rule,
      Rule.compile registry (some expected) source = .ok rule →
      ∃ plain, Rule.compile registry none source = .ok plain ∧
        Answer.Match (written.Coerces expected) (plain.run lookup hasher).result
          (rule.run lookup hasher).result := by
    intro source hsource rule hcompiled
    obtain ⟨plain, hplain, hrun⟩ := Rule.exists_compile_of_typed hcompiled lookup hasher
    exact ⟨plain, hplain, hrun.mono fun value output hvalue => Or.inr ⟨source, hsource, hvalue⟩⟩
  obtain ⟨tree, hplain, hmatch⟩ :=
    RuleTree.exists_compile_of_sameRules lookup hasher hcongruence hrule (sameRules hrules) htree
  rw [← hnone] at hplain
  have hchecked : checkDefault written = .ok () := by
    unfold checkDefault
    rw [hnone]
    cases written.defaultValue <;> rfl
  refine ⟨_, compile_of_writtenBy hwritten hchecked hrules hplain, ?_⟩
  rw [evaluate_eq, evaluate_eq, h.partitions, h.defaultValue]
  exact hmatch.orDefault (fun value => Or.inl rfl) written.defaultValue

/-- A document that compiles does so with a declared type that it conforms to. -/
theorem exists_compile_of_conforms {other : String}
    (hother : (written.declare expected).WrittenBy other) (hnone : written.valueType = none)
    {document : Document} (h : CompiledFrom registry written document)
    (hconforms : written.Conforms expected) : ∃ typed, compile registry other = .ok typed := by
  obtain ⟨rules, hrules, htree⟩ := h.rules
  rw [hnone] at htree
  -- Any way in which answers are alike serves, since only the success matters here.
  have hcongruence : Answer.Congruence fun _ _ => True := ⟨trivial, fun _ _ => trivial⟩
  have hrule : ∀ source, written.HasRule source → ∀ rule,
      Rule.compile registry none source = .ok rule →
      ∃ typed, Rule.compile registry (some expected) source = .ok typed ∧ True := by
    intro source hsource rule hcompiled
    obtain ⟨typed, htyped⟩ :=
      Rule.exists_compile_of_conforms hcompiled (hconforms.rules source hsource)
    exact ⟨typed, htyped, trivial⟩
  obtain ⟨tree, htyped, -⟩ := RuleTree.exists_compile_of_sameRules (fun _ => none)
    (fun _ => default) hcongruence hrule (sameRules hrules) htree
  exact ⟨_, compile_of_writtenBy hother (checkDefault_declare_iff.mpr hconforms.default) hrules
    htyped⟩

/-- Declaring a type filters documents and reads the keys of weights. A document without a
declared type compiles with one exactly if it compiles as it is and conforms to the type; and
then every evaluation of the two ends with the same failure, without a value in both, or with
the same value, up to what the keys of weights stand for. -/
theorem compile_declared_iff {text other : String} {fields : Dict Json} {spelled : Json}
    (hread : Json.read? text = some (.object fields))
    (hundeclared : Dict.find? "valueType" fields = none)
    (hspelled : Shape.choice ValueType.named spelled = .ok expected)
    (hother : Json.read? other = some (.object (Dict.insert "valueType" spelled fields))) :
    ((∃ typed, compile registry other = .ok typed) ↔
      ∃ document written, compile registry text = .ok document ∧
        WrittenDocument.WrittenBy written text ∧ written.Conforms expected) ∧
      ∀ typed, compile registry other = .ok typed →
        ∃ document written, compile registry text = .ok document ∧
          WrittenDocument.WrittenBy written text ∧ ∀ lookup hasher,
            Answer.Match (written.Coerces expected) (document.evaluate lookup hasher)
              (typed.evaluate lookup hasher) := by
  have hdeclares : ∀ typed, compile registry other = .ok typed →
      ∃ written : WrittenDocument, written.WrittenBy text ∧ written.valueType = none ∧
        CompiledFrom registry (written.declare expected) typed := by
    intro typed htyped
    obtain ⟨found, hfound, hfrom⟩ := exists_written_of_compile htyped
    obtain ⟨written, hwritten, rfl⟩ :=
      (WrittenDocument.writtenBy_declare_iff hread hundeclared hspelled hother).mp hfound
    exact ⟨written, hwritten, hwritten.valueType_eq_none hread hundeclared, hfrom⟩
  refine ⟨⟨?_, ?_⟩, fun typed htyped => ?_⟩
  · rintro ⟨typed, htyped⟩
    obtain ⟨written, hwritten, hnone, hfrom⟩ := hdeclares typed htyped
    obtain ⟨document, hcompile, -⟩ :=
      exists_compile_of_typed hwritten hnone hfrom (fun _ => none) fun _ => default
    exact ⟨document, written, hcompile, hwritten, hfrom.conforms⟩
  · rintro ⟨document, written, hcompile, hwritten, hconforms⟩
    have hnone := hwritten.valueType_eq_none hread hundeclared
    have hdeclared := (WrittenDocument.writtenBy_declare_iff hread hundeclared hspelled
      hother).mpr ⟨written, hwritten, rfl⟩
    exact exists_compile_of_conforms hdeclared hnone (compiledFrom_of_writtenBy hwritten hcompile)
      hconforms
  · obtain ⟨written, hwritten, hnone, hfrom⟩ := hdeclares typed htyped
    obtain ⟨document, hcompile, -⟩ :=
      exists_compile_of_typed hwritten hnone hfrom (fun _ => none) fun _ => default
    refine ⟨document, written, hcompile, hwritten, fun lookup hasher => ?_⟩
    obtain ⟨same, hsame, hmatch⟩ := exists_compile_of_typed hwritten hnone hfrom lookup hasher
    rw [hcompile] at hsame
    cases hsame
    exact hmatch

set_option maxRecDepth 4000 in
/-- Numbers as keys, one of them without weight. -/
theorem compile_declared_iff_number :
    ∃ document typed written, compile .empty
        r#"{"rules":[{"Id":"a","OwnerType":"u","Type":"MultiVariant","ValueDistribution":{"args":{"1":1,"2":0},"type":"weighted"}}]}"# =
        .ok document ∧
      compile .empty
        r#"{"rules":[{"Id":"a","OwnerType":"u","Type":"MultiVariant","ValueDistribution":{"args":{"1":1,"2":0},"type":"weighted"}}],"valueType":"number"}"# =
        .ok typed ∧
      WrittenDocument.Conforms .number written ∧
      ∀ lookup hasher, Answer.Match (written.Coerces .number) (document.evaluate lookup hasher)
        (typed.evaluate lookup hasher) := by
  have hread : Json.read?
      r#"{"rules":[{"Id":"a","OwnerType":"u","Type":"MultiVariant","ValueDistribution":{"args":{"1":1,"2":0},"type":"weighted"}}]}"# =
      some (.object [("rules", .array [.object [("Id", .string "a"), ("OwnerType", .string "u"),
        ("Type", .string "MultiVariant"), ("ValueDistribution", .object [
          ("args", .object [("1", .number (.natural 1)), ("2", .number (.natural 0))]),
          ("type", .string "weighted")])]])]) := by rfl
  have hother : Json.read?
      r#"{"rules":[{"Id":"a","OwnerType":"u","Type":"MultiVariant","ValueDistribution":{"args":{"1":1,"2":0},"type":"weighted"}}],"valueType":"number"}"# =
      some (.object (Dict.insert "valueType" (.string "number") [("rules", .array [.object
        [("Id", .string "a"), ("OwnerType", .string "u"), ("Type", .string "MultiVariant"),
          ("ValueDistribution", .object [
            ("args", .object [("1", .number (.natural 1)), ("2", .number (.natural 0))]),
            ("type", .string "weighted")])]])])) := by rfl
  have htyped := (compile_of_read? .empty hother).trans rfl
  obtain ⟨hiff, hmatch⟩ := compile_declared_iff hread rfl rfl hother
  obtain ⟨document, written, hcompile, hwritten, hconforms⟩ := hiff.mp ⟨_, htyped⟩
  obtain ⟨same, found, hsame, hfound, hanswers⟩ := hmatch _ htyped
  rw [hcompile] at hsame
  cases hsame
  rw [hfound.unique hwritten] at hanswers
  exact ⟨document, _, written, hcompile, htyped, hconforms, hanswers⟩

end Document

end Rulebook
