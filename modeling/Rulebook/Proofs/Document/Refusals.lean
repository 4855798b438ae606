import Rulebook.Proofs.Comparer.Version
import Rulebook.Proofs.Document.Rules
import Rulebook.Proofs.Matcher.Refusals

/-!
# Why an evaluation fails

An evaluation fails only because of the context: a rule consults a comparer for a
property whose value has a text, and the comparer refuses that text. With the
comparers that every document can use, the text is no version.
-/

namespace Rulebook

theorem Json.text?_eq_none {value : Json}
    (h : value = .null ∨ (∃ items, value = .array items) ∨ ∃ fields, value = .object fields) :
    value.text? = none := by
  rcases h with rfl | ⟨items, rfl⟩ | ⟨fields, rfl⟩
  all_goals rfl

/-- Only texts, numbers and truth values have a text. -/
theorem Json.exists_of_text?_eq_some {value : Json} {text : String}
    (h : value.text? = some text) :
    (∃ s, value = .string s) ∨ (∃ n, value = .number n) ∨ ∃ b, value = .bool b := by
  cases value with
  | string s => exact Or.inl ⟨s, rfl⟩
  | number n => exact Or.inr (Or.inl ⟨n, rfl⟩)
  | bool b => exact Or.inr (Or.inr ⟨b, rfl⟩)
  | null | array _ | object _ => cases h

/-- The comparer that every document can use is that of versions. -/
theorem Registry.eq_of_get?_builtin {name : String} {comparer : Comparer}
    (h : Registry.builtin.get? name = some comparer) : comparer = Version.comparer := by
  by_cases hname : name = Version.comparer.name
  · rw [hname, builtin, get?_register_self] at h
    exact (Option.some.inj h).symm
  · rw [builtin, get?_register_of_ne hname] at h
    cases h

/-- A document consults the comparer of a name about a literal, for the value of a
property: one of its rules does. -/
def WrittenDocument.Consults (written : WrittenDocument) (property name : String)
    (literal : Json) : Prop :=
  ∃ rule, written.HasRule rule ∧ Reading.MatcherConsults property name literal rule.matcher

namespace Reading

theorem Understands.isVersion {name : String} {literal : Json}
    (h : Understands .builtin name literal) :
    ∃ text, literal.text? = some text ∧ Version.IsVersion text := by
  obtain ⟨comparer, text, order, hcomparer, htext, horder⟩ := h
  rw [Registry.eq_of_get?_builtin hcomparer] at horder
  exact ⟨text, htext, Version.isVersion_of_compare_self horder⟩

/-- A value that is refused beside a version is none. -/
theorem Refuses.not_isVersion {name : String} {value literal : Json} {error : ComparisonError}
    (h : Refuses .builtin name value literal error)
    (hunderstands : Understands .builtin name literal) :
    error.comparer = "version" ∧ value.text? = some error.operand ∧
      ¬ Version.IsVersion error.operand := by
  obtain ⟨comparer, left, right, hcomparer, hleft, hright, hcompare⟩ := h
  obtain ⟨text, htext, hversion⟩ := hunderstands.isVersion
  rw [hright] at htext
  cases htext
  rw [Registry.eq_of_get?_builtin hcomparer] at hcompare
  obtain ⟨hname, hoperand, hnot⟩ := Version.error_of_compare hcompare hversion
  rw [hoperand]
  exact ⟨hname, hleft, hnot⟩

end Reading

/-- A rule that compiles and fails consults a comparer, which refuses the value of the
property. -/
theorem Rule.consults_of_run_error {registry : Registry} {declared : Option ValueType}
    {written : WrittenRule} {rule : Rule} (hcompile : compile registry declared written = .ok rule)
    {lookup : Lookup} {hasher : Hasher} {error : ComparisonError}
    (hrun : (rule.run lookup hasher).result = .error error) :
    ∃ property name literal, Reading.MatcherConsults property name literal written.matcher ∧
      Reading.Refuses registry name ((lookup property).getD .null) literal error := by
  have hmatcher := (compile_eq_ok hcompile).1
  rw [result_run] at hrun
  have hverdict := Except.map_eq_error_iff.mp hrun
  rw [Matcher.eval_of_compile lookup hmatcher] at hverdict
  obtain ⟨parts, hparts, -⟩ := Except.bind_eq_ok_iff.mp hmatcher
  exact Reading.consults_of_matcher_error hparts hverdict

namespace Document

variable {registry : Registry} {written : WrittenDocument} {document : Document}

/-- The comparers understand all literals of a compiled document. -/
theorem CompiledFrom.understands (h : CompiledFrom registry written document)
    {property name : String} {literal : Json} (hconsults : written.Consults property name literal) :
    Reading.Understands registry name literal := by
  obtain ⟨rule, hrule, hmatcher⟩ := hconsults
  obtain ⟨compiled, hcompiled⟩ := h.exists_compiled hrule
  obtain ⟨parts, hparts, -⟩ := Except.bind_eq_ok_iff.mp (Rule.compile_eq_ok hcompiled).1
  exact Reading.understands_of_matcher hparts hmatcher

/-- A compiled document that fails consults a comparer, which refuses the value of the
property. -/
theorem CompiledFrom.consults_of_error (h : CompiledFrom registry written document)
    {lookup : Lookup} {hasher : Hasher} {error : ComparisonError}
    (hevaluate : document.evaluate lookup hasher = .error error) :
    ∃ property name literal value, written.Consults property name literal ∧
      lookup property = some value ∧ Reading.Refuses registry name value literal error := by
  obtain ⟨rule, hrule, hrun⟩ := exists_rule_of_evaluate_error hevaluate
  obtain ⟨source, hsource, hcompile⟩ := h.exists_written hrule
  obtain ⟨property, name, literal, hconsults, hrefuses⟩ :=
    Rule.consults_of_run_error hcompile hrun
  -- A property without a value would be null here, which has no text.
  obtain ⟨value, hvalue⟩ : ∃ value, lookup property = some value := by
    cases hfound : lookup property with
    | some value => exact ⟨value, rfl⟩
    | none =>
      rw [hfound] at hrefuses
      obtain ⟨_, _, _, _, hleft, _⟩ := hrefuses
      cases hleft
  rw [hvalue] at hrefuses
  exact ⟨property, name, literal, value, ⟨source, hsource, hconsults⟩, hvalue, hrefuses⟩

/-- An evaluation fails only because of the context. The comparers understand every
literal that they are consulted about, and a failure means that one refuses to compare
such a literal with a text, number or truth value of the context; with no comparer but
that of versions, the failure is that this value is no version. So a context with
nothing but nulls, arrays and objects never fails. -/
theorem error_of_context {text : String} (hcompile : compile registry text = .ok document) :
    ∃ written : WrittenDocument, written.WrittenBy text ∧
      (∀ property name literal, written.Consults property name literal →
        Reading.Understands registry name literal ∧
        (registry = .builtin →
          ∃ version, literal.text? = some version ∧ Version.IsVersion version)) ∧
      ∀ lookup hasher,
        (∀ error, document.evaluate lookup hasher = .error error →
          ∃ property name literal value, written.Consults property name literal ∧
            lookup property = some value ∧
            ((∃ s, value = .string s) ∨ (∃ n, value = .number n) ∨ ∃ b, value = .bool b) ∧
            Reading.Refuses registry name value literal error ∧
            (registry = .builtin → error.comparer = "version" ∧
              value.text? = some error.operand ∧ ¬ Version.IsVersion error.operand)) ∧
        ((∀ property value, lookup property = some value → value = .null ∨
            (∃ items, value = .array items) ∨ ∃ fields, value = .object fields) →
          ∃ answer, document.evaluate lookup hasher = .ok answer) := by
  obtain ⟨written, hwritten, hfrom⟩ := exists_written_of_compile hcompile
  refine ⟨written, hwritten, fun property name literal hconsults => ?_, fun lookup hasher => ?_⟩
  · have hunderstands := hfrom.understands hconsults
    refine ⟨hunderstands, ?_⟩
    rintro rfl
    exact hunderstands.isVersion
  · constructor
    · intro error herror
      obtain ⟨property, name, literal, value, hconsults, hvalue, hrefuses⟩ :=
        hfrom.consults_of_error herror
      obtain ⟨_, _, _, _, hleft, _⟩ := id hrefuses
      refine ⟨property, name, literal, value, hconsults, hvalue,
        Json.exists_of_text?_eq_some hleft, hrefuses, ?_⟩
      rintro rfl
      exact hrefuses.not_isVersion (hfrom.understands hconsults)
    · intro htextless
      cases hevaluate : document.evaluate lookup hasher with
      | ok answer => exact ⟨answer, rfl⟩
      | error error =>
        obtain ⟨property, _, _, value, -, hvalue, hrefuses⟩ := hfrom.consults_of_error hevaluate
        obtain ⟨_, _, _, _, hleft, _⟩ := hrefuses
        rw [Json.text?_eq_none (htextless property value hvalue)] at hleft
        cases hleft

/-- A rule from one version on. -/
theorem error_of_context_version :
    ∃ document, compile .builtin
        r#"[{"Matcher":{"v":{"$compare":"version","$ge":"1.2"}},"Value":"x"}]"# = .ok document ∧
      ∃ written : WrittenDocument, written.WrittenBy
          r#"[{"Matcher":{"v":{"$compare":"version","$ge":"1.2"}},"Value":"x"}]"# ∧
        (∀ property name literal, written.Consults property name literal →
          ∃ version, literal.text? = some version ∧ Version.IsVersion version) ∧
        ∀ lookup hasher error, document.evaluate lookup hasher = .error error →
          ∃ property value, lookup property = some value ∧ error.comparer = "version" ∧
            value.text? = some error.operand ∧ ¬ Version.IsVersion error.operand := by
  have hread : Json.read?
      r#"[{"Matcher":{"v":{"$compare":"version","$ge":"1.2"}},"Value":"x"}]"# =
      some (.array [.object [("Matcher", .object [("v", .object [("$compare", .string "version"),
        ("$ge", .string "1.2")])]), ("Value", .string "x")]]) := by rfl
  have hcompile := (compile_of_read? .builtin hread).trans rfl
  obtain ⟨written, hwritten, hliterals, hcontext⟩ := error_of_context hcompile
  refine ⟨_, hcompile, written, hwritten, fun property name literal hconsults => ?_,
    fun lookup hasher error herror => ?_⟩
  · exact (hliterals property name literal hconsults).2 rfl
  · obtain ⟨property, _, _, value, -, hvalue, -, -, hversion⟩ :=
      (hcontext lookup hasher).1 error herror
    exact ⟨property, value, hvalue, hversion rfl⟩

end Document

end Rulebook
