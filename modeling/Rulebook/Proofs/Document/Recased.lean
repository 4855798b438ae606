import Rulebook.Proofs.Document.Rules
import Rulebook.Proofs.Matcher.Recased
import Rulebook.Proofs.RuleTree.Matching
import Rulebook.Settings

/-!
# Documents with properties in another case

The properties that divide the rules, those of the matchers and the types of owners may
be written in another case. The document then compiles as before and gives every context
the same, unless a matcher tries its entries in another order and a comparer refuses one
of them.
-/

namespace Rulebook

/-- The property of an owner is in lower case what it is for the type in lower case. -/
theorem Rule.lowerCase_ownerProperty (ownerType : String) :
    Text.lowerCase (ownerProperty ownerType) = ownerProperty (Text.lowerCase ownerType) := by
  have hback : Text.nextIsCased ".@@id".toList = false := by decide +kernel
  have hsame : ∀ before, Text.lowerChars before ".@@id".toList = ".@@id".toList := by
    intro before
    rfl
  rw [ownerProperty, ownerProperty, Text.lowerCase, Text.lowerCase, String.toList_append,
    Text.lowerChars_append hback, hsame, String.ofList_append, String.ofList_toList]

/-- A rule with properties and the type of owners in another case. -/
structure WrittenRule.Recased (free : List (String × Json) → Prop) (rule other : WrittenRule) :
    Prop where
  /-- The matcher has properties in another case. -/
  matcher : Matcher.Recased free rule.matcher other.matcher
  /-- The type of owners is in another case. -/
  ownerType : other.ownerType.map Text.lowerCase = rule.ownerType.map Text.lowerCase
  /-- The name is the same. -/
  id : other.id = rule.id
  /-- The number of variants is the same. -/
  variants : other.variants = rule.variants
  /-- The value is the same. -/
  value : other.value = rule.value
  /-- The salt is the same. -/
  salt : other.salt = rule.salt
  /-- The distribution is the same. -/
  distribution : other.distribution = rule.distribution

/-- An item that writes a rule, with properties and the type of owners in another case. -/
def WrittenRule.RecasedItem (free : List (String × Json) → Prop) (item other : Json) : Prop :=
  ∃ rule renamed, WrittenRule.read item = .ok rule ∧ WrittenRule.read other = .ok renamed ∧
    rule.Recased free renamed

/-- A context whose names are the same in every case, in which nothing is refused where a
matcher is free to change its order, or failures do not matter. -/
structure Lookup.Admits (registry : Registry) (free : List (String × Json) → Prop)
    (lenient : Prop) (lookup : Lookup) : Prop where
  /-- Names are the same in every case. -/
  folds : FoldsCase lookup
  /-- Nothing is refused, or failures do not matter. -/
  unrefused : ∀ fields, free fields → lenient ∨ Reading.Unrefused registry lookup fields

section

open Evaluation (Alike)

variable {free : List (String × Json) → Prop} {registry : Registry} {declared : Option ValueType}
  {lookup : Lookup} {lenient : Prop} (hasher : Hasher)

/-- Answers that are the same, or of which one is a failure where failures do not matter, are
alike. -/
theorem Answer.congruence_alike : Answer.Congruence (Alike lenient) :=
  ⟨.of_eq rfl, Answer.alike_orElse⟩

namespace Rule

/-- A rule with several variants compiles with the type of owners in another case, and
finds the same owner. -/
theorem exists_compileShared_of_recased (hfolds : FoldsCase lookup) {rule other : WrittenRule}
    (h : rule.Recased free other) {outcome : Outcome}
    (hcompile : compileShared declared rule = .ok outcome) :
    ∃ renamed, compileShared declared other = .ok renamed ∧
      outcome.given lookup hasher = renamed.given lookup hasher := by
  obtain ⟨ownerType, salt, source, distribution, howner, hsalt, hsource, hdistribution, hcheck,
    rfl⟩ := compileShared_eq_ok_iff.mp hcompile
  have hlower := h.ownerType
  rw [howner, Option.map_some] at hlower
  obtain ⟨renamed, hrenamed, hlower⟩ := Option.map_eq_some_iff.mp hlower
  rw [← h.salt, ← h.id] at hsalt
  rw [← h.distribution] at hsource
  refine ⟨.shared renamed salt distribution, ?_, ?_⟩
  · exact compileShared_eq_ok_iff.mpr ⟨renamed, salt, source, distribution, hrenamed, hsalt,
      hsource, hdistribution, hcheck, rfl⟩
  · have hproperty : lookup (ownerProperty renamed) = lookup (ownerProperty ownerType) := by
      refine hfolds _ _ ?_
      rw [lowerCase_ownerProperty, lowerCase_ownerProperty, hlower]
    simp only [Outcome.given, hproperty]

/-- A rule that compiles does so with properties in another case, and is alike. -/
theorem exists_compile_of_recased (hadmits : Lookup.Admits registry free lenient lookup)
    {rule other : WrittenRule} (h : rule.Recased free other) {compiled : Rule}
    (hcompile : compile registry declared rule = .ok compiled) :
    ∃ renamed, compile registry declared other = .ok renamed ∧
      Alike lenient (compiled.run lookup hasher).result (renamed.run lookup hasher).result := by
  obtain ⟨hmatcher, houtcome⟩ := compile_eq_ok hcompile
  obtain ⟨parts, hparts, -⟩ := Except.bind_eq_ok_iff.mp hmatcher
  obtain ⟨renamed, hrenamed⟩ := h.matcher.exists_compiled ⟨parts, hparts⟩
  have hother : Matcher.compile registry other.matcher = .ok (Matcher.conjunction renamed) := by
    rw [Matcher.compile, hrenamed]
    rfl
  have hverdicts := h.matcher.alike hadmits.folds hadmits.unrefused
  rw [← Matcher.eval_of_compile lookup hmatcher, ← Matcher.eval_of_compile lookup hother]
    at hverdicts
  -- Whatever the outcome is, the rule gives it when it matches.
  have halike : ∀ outcome, compiled.outcome.given lookup hasher = outcome.given lookup hasher →
      Alike lenient (compiled.run lookup hasher).result
        ((Rule.mk (Matcher.conjunction renamed) outcome).run lookup hasher).result := by
    intro outcome hgiven
    rw [result_run, result_run, hgiven]
    exact hverdicts.map _
  rcases houtcome with ⟨hvariants, houtcome⟩ | ⟨hvariants, houtcome⟩
  · rw [compileFixed, ← h.value, ← compileFixed] at houtcome
    have hsingle : other.variants = .single := h.variants.trans hvariants
    exact ⟨_, compile_of_outcome hother (.single hsingle houtcome), halike _ rfl⟩
  · obtain ⟨outcome, houtcome, hgiven⟩ :=
      exists_compileShared_of_recased hasher hadmits.folds h houtcome
    have hmultiple : other.variants = .multiple := h.variants.trans hvariants
    exact ⟨_, compile_of_outcome hother (.multiple hmultiple houtcome), halike _ hgiven⟩

/-- A list of rules that compiles does so with properties in another case, and is alike. -/
theorem exists_compileAll_of_recased (hadmits : Lookup.Admits registry free lenient lookup)
    {items others : List Json} (h : List.Forall₂ (WrittenRule.RecasedItem free) items others)
    {rules : List Rule} (hcompile : compileAll registry declared (.array items) = .ok rules) :
    ∃ renamed, compileAll registry declared (.array others) = .ok renamed ∧
      Alike lenient (runFirst lookup hasher rules).result
        (runFirst lookup hasher renamed).result := by
  refine exists_compileAll_of_relates hasher Answer.congruence_alike ?_ h hcompile
  rintro item other ⟨rule, renamed, hread, hotherRead, hrecased⟩ written hwritten compiled hrule
  rw [hread] at hwritten
  cases hwritten
  obtain ⟨result, hresult, halike⟩ := exists_compile_of_recased hasher hadmits hrecased hrule
  exact ⟨renamed, result, hotherRead, hresult, halike⟩

end Rule

namespace RuleTree

/-- Rules below as many partitions as `depth` says, with properties and the types of owners
in another case. -/
def Recased (free : List (String × Json) → Prop) : Nat → Json → Json → Prop
  | 0, .array items, .array others => List.Forall₂ (WrittenRule.RecasedItem free) items others
  | depth + 1, .object children, .object others =>
    List.Forall₂ (Dict.Match (Recased free depth)) children others
  | _, _, _ => False

/-- Below the last partition there are lists of rules. -/
theorem exists_items_of_recased {written other : Json} (h : Recased free 0 written other) :
    ∃ items others, written = .array items ∧ other = .array others ∧
      List.Forall₂ (WrittenRule.RecasedItem free) items others := by
  cases written with
  | array items =>
    cases other with
    | array others => exact ⟨items, others, rfl, rfl, h⟩
    | null | bool _ | number _ | string _ | object _ => exact h.elim
  | null | bool _ | number _ | string _ | object _ => exact h.elim

/-- In a partition there are children under the same keys. -/
theorem exists_children_of_recased {depth : Nat} {written other : Json}
    (h : Recased free (depth + 1) written other) :
    ∃ children others, written = .object children ∧ other = .object others ∧
      List.Forall₂ (Dict.Match (Recased free depth)) children others := by
  cases written with
  | object children =>
    cases other with
    | object others => exact ⟨children, others, rfl, rfl, h⟩
    | null | bool _ | number _ | string _ | array _ => exact h.elim
  | null | bool _ | number _ | string _ | array _ => exact h.elim

/-- A tree that compiles does so with properties in another case, and is alike. -/
theorem exists_compile_of_recased (hadmits : Lookup.Admits registry free lenient lookup)
    {partitions others : List String}
    (hpartitions : List.Forall₂ (fun partition other =>
      Text.lowerCase other = Text.lowerCase partition) partitions others)
    {written other : Json} (h : Recased free partitions.length written other) {tree : RuleTree}
    (hcompile : compile registry declared partitions.length written = .ok tree) :
    ∃ renamed, compile registry declared others.length other = .ok renamed ∧
      Alike lenient (run lookup hasher partitions tree).result
        (run lookup hasher others renamed).result := by
  refine exists_compile_of_relates hasher Answer.congruence_alike
    (fun written other (hleaf : Recased free 0 written other) rules hrules => ?_)
    (fun depth children other (hchildren : Recased free (depth + 1) _ other) => ?_) ?_ h hcompile
  · obtain ⟨items, others, rfl, rfl, hitems⟩ := exists_items_of_recased hleaf
    exact Rule.exists_compileAll_of_recased hasher hadmits hitems hrules
  · obtain ⟨_, others, hwritten, rfl, hmatch⟩ := exists_children_of_recased hchildren
    cases hwritten
    exact ⟨others, rfl, hmatch⟩
  · refine hpartitions.imp fun partition other hsame => ?_
    rw [contextKey, contextKey, hadmits.folds _ _ hsame]

end RuleTree

/-- A document with its partitions, the properties of its matchers and the types of its
owners in another case. -/
structure WrittenDocument.Recased (free : List (String × Json) → Prop)
    (written other : WrittenDocument) : Prop where
  /-- The partitions are in another case. -/
  partitions : List.Forall₂ (fun partition renamed =>
    Text.lowerCase renamed = Text.lowerCase partition) written.partitions other.partitions
  /-- The rules have properties and the types of owners in another case. -/
  rules : ∃ rules renamed, written.rules = some rules ∧ other.rules = some renamed ∧
    RuleTree.Recased free written.partitions.length rules renamed
  /-- The default value is the same. -/
  defaultValue : other.defaultValue = written.defaultValue
  /-- The type of the values is the same. -/
  valueType : other.valueType = written.valueType

namespace Document

/-- A document that compiles does so with properties in another case, and is alike. -/
theorem exists_compile_of_recased (hadmits : Lookup.Admits registry free lenient lookup)
    {text other : String} {document : Document} (hcompile : compile registry text = .ok document)
    {written renamed : WrittenDocument} (hwritten : written.WrittenBy text)
    (hrenamed : renamed.WrittenBy other) (h : written.Recased free renamed) :
    ∃ result, compile registry other = .ok result ∧
      Alike lenient (document.evaluate lookup hasher) (result.evaluate lookup hasher) := by
  have hfrom := compiledFrom_of_writtenBy hwritten hcompile
  obtain ⟨found, hfound, htree⟩ := hfrom.rules
  obtain ⟨rules, others, hrules, hothers, hrecased⟩ := h.rules
  rw [hrules] at hfound
  cases hfound
  obtain ⟨tree, hother, halike⟩ :=
    RuleTree.exists_compile_of_recased hasher hadmits h.partitions hrecased htree
  have hchecked : checkDefault renamed = .ok () := by
    rw [checkDefault, h.defaultValue, h.valueType]
    exact hfrom.checked
  rw [← h.valueType] at hother
  refine ⟨_, compile_of_writtenBy hrenamed hchecked hothers hother, ?_⟩
  rw [evaluate_eq, evaluate_eq, hfrom.partitions, hfrom.defaultValue, h.defaultValue]
  exact halike.map _

end Document

end

/-- The names of a context of tokens are the same in every case. -/
theorem Context.foldsCase (context : Context) : FoldsCase context.get? := by
  intro one other hsame
  rw [get?, get?, hsame]

namespace Settings

/-- Properties may be written in another case. The document then compiles too, and gives
every list of tokens the same, unless a comparer makes one of the two evaluations fail;
and also then, if it refuses nothing where the entries of a matcher change their order. -/
theorem calculateText_of_recased {settings : Settings} {text other : String}
    {document : Document} (hcompile : settings.compile text = .ok document)
    {written renamed : WrittenDocument} (hwritten : written.WrittenBy text)
    (hrenamed : renamed.WrittenBy other) (hrecased : written.Recased (fun _ => True) renamed) :
    (∃ result, settings.compile other = .ok result) ∧
      ∀ tokens,
        (settings.calculateText text tokens = settings.calculateText other tokens ∨
          (∃ error, settings.calculateText text tokens = .error (.evaluation error)) ∨
          ∃ error, settings.calculateText other tokens = .error (.evaluation error)) ∧
        ∀ context, Context.ofTokens tokens = .ok context →
          written.Recased (Reading.Unrefused settings.registry context.get?) renamed →
          settings.calculateText text tokens = settings.calculateText other tokens := by
  have hdocument := compile_eq_ok hcompile
  have hcompiled : ∃ result, settings.compile other = .ok result := by
    have hadmits : Lookup.Admits settings.registry (fun _ => True) True fun _ => none :=
      ⟨fun _ _ _ => rfl, fun _ _ => Or.inl trivial⟩
    obtain ⟨result, hresult, -⟩ := Document.exists_compile_of_recased settings.hasher hadmits
      hdocument hwritten hrenamed hrecased
    exact ⟨result, compile_of_document hresult⟩
  -- With lenience every order of entries is admitted, and without it every order that
  -- leaves no refused entry at another place.
  refine ⟨hcompiled, fun tokens => ⟨?_, fun context hcontext hstrict => ?_⟩⟩
  · cases hcontext : Context.ofTokens tokens with
    | error error =>
      obtain ⟨result, hresult⟩ := hcompiled
      rw [calculateText_eq hcompile, calculateText_eq hresult, hcontext]
      exact Or.inl rfl
    | ok context =>
      have hadmits : Lookup.Admits settings.registry (fun _ => True) True context.get? :=
        ⟨context.foldsCase, fun _ _ => Or.inl trivial⟩
      obtain ⟨result, hresult, halike⟩ := Document.exists_compile_of_recased settings.hasher
        hadmits hdocument hwritten hrenamed hrecased
      rw [calculateText_eq hcompile, calculateText_eq (compile_of_document hresult), hcontext]
      rcases halike with hsame | ⟨-, ⟨error, herror⟩ | ⟨error, herror⟩⟩
      · refine Or.inl ?_
        simp only [calculate, hsame]
      · refine Or.inr (Or.inl ⟨error, ?_⟩)
        simp only [calculate, herror, Except.mapError]
      · refine Or.inr (Or.inr ⟨error, ?_⟩)
        simp only [calculate, herror, Except.mapError]
  · have hadmits : Lookup.Admits settings.registry
        (Reading.Unrefused settings.registry context.get?) False context.get? :=
      ⟨context.foldsCase, fun _ hthis => Or.inr hthis⟩
    obtain ⟨result, hresult, hsame | ⟨hfalse, -⟩⟩ := Document.exists_compile_of_recased
      settings.hasher hadmits hdocument hwritten hrenamed hstrict
    · rw [calculateText_eq hcompile, calculateText_eq (compile_of_document hresult), hcontext]
      simp only [calculate, hsame]
    · exact hfalse.elim

/-- A property in another case with the same place among the entries, and a version that is
refused. -/
theorem calculateText_of_recased_same_order :
    ∃ text other document result context, ∃ written renamed : WrittenDocument,
      text = r#"[{"Matcher":{"b":{"$compare":"version","$gt":"1"},"c":"x"},"Value":1}]"# ∧
      other = r#"[{"Matcher":{"B":{"$compare":"version","$gt":"1"},"c":"x"},"Value":1}]"# ∧
      standard.compile text = .ok document ∧ written.WrittenBy text ∧ renamed.WrittenBy other ∧
      written.Recased (fun _ => True) renamed ∧ standard.compile other = .ok result ∧
      Context.ofTokens ["b=bad", "c=y"] = .ok context ∧
      written.Recased (Reading.Unrefused standard.registry context.get?) renamed ∧
      standard.calculateText text ["b=bad", "c=y"] =
        standard.calculateText other ["b=bad", "c=y"] := by
  have hread : Json.read?
      r#"[{"Matcher":{"b":{"$compare":"version","$gt":"1"},"c":"x"},"Value":1}]"# =
      some (.array [.object [("Matcher", .object [
        ("b", .object [("$compare", .string "version"), ("$gt", .string "1")]),
        ("c", .string "x")]), ("Value", .number (.natural 1))]]) := by rfl
  have hreadOther : Json.read?
      r#"[{"Matcher":{"B":{"$compare":"version","$gt":"1"},"c":"x"},"Value":1}]"# =
      some (.array [.object [("Matcher", .object [
        ("B", .object [("$compare", .string "version"), ("$gt", .string "1")]),
        ("c", .string "x")]), ("Value", .number (.natural 1))]]) := by rfl
  have hrecased : ∀ free, WrittenDocument.Recased free
      ⟨[], some (.array [.object [("Matcher", .object [
        ("b", .object [("$compare", .string "version"), ("$gt", .string "1")]),
        ("c", .string "x")]), ("Value", .number (.natural 1))]]), none, none⟩
      ⟨[], some (.array [.object [("Matcher", .object [
        ("B", .object [("$compare", .string "version"), ("$gt", .string "1")]),
        ("c", .string "x")]), ("Value", .number (.natural 1))]]), none, none⟩ := by
    intro free
    have hb : ∀ condition, Matcher.RecasedEntry free "b" condition "B" condition :=
      fun _ => .property (by decide) rfl
    have hc : ∀ condition, Matcher.RecasedEntry free "c" condition "c" condition :=
      fun _ => .property (by decide) rfl
    refine ⟨.nil, ⟨_, _, rfl, rfl, .cons ⟨_, _, rfl, rfl, ?_⟩ .nil⟩, rfl, rfl⟩
    exact ⟨.ordered (.cons (hb _) (.cons (hc _) .nil)), rfl, rfl, rfl, rfl, rfl, rfl⟩
  have hcompile := compile_of_document
    ((Document.compile_of_read? standard.registry hread).trans rfl)
  have hwritten : WrittenDocument.WrittenBy _ _ := ⟨_, hread, rfl⟩
  have hrenamed : WrittenDocument.WrittenBy _ _ := ⟨_, hreadOther, rfl⟩
  have hcontext : ∃ context, Context.ofTokens ["b=bad", "c=y"] = .ok context := ⟨_, by rfl⟩
  obtain ⟨context, hcontext⟩ := hcontext
  obtain ⟨⟨result, hresult⟩, htokens⟩ := calculateText_of_recased hcompile hwritten hrenamed
    (hrecased _)
  exact ⟨_, _, _, result, context, _, _, rfl, rfl, hcompile, hwritten, hrenamed, hrecased _,
    hresult, hcontext, hrecased _, (htokens _).2 context hcontext (hrecased _)⟩

/-- A property in another case that then stands before another one: what was refused is not
asked for any more. -/
theorem exists_recased_calculateText_ne :
    ∃ text other document, ∃ written renamed : WrittenDocument,
      text = r#"[{"Matcher":{"b":{"$compare":"version","$gt":"1"},"c":"x"},"Value":1}]"# ∧
      other = r#"[{"Matcher":{"b":{"$compare":"version","$gt":"1"},"C":"x"},"Value":1}]"# ∧
      standard.compile text = .ok document ∧ written.WrittenBy text ∧ renamed.WrittenBy other ∧
      written.Recased (fun _ => True) renamed ∧
      standard.calculateText text ["b=bad", "c=y"] =
        .error (.evaluation ⟨"version", "bad", "components must be decimal digits"⟩) ∧
      standard.calculateText other ["b=bad", "c=y"] = .ok none := by
  have hread : Json.read?
      r#"[{"Matcher":{"b":{"$compare":"version","$gt":"1"},"c":"x"},"Value":1}]"# =
      some (.array [.object [("Matcher", .object [
        ("b", .object [("$compare", .string "version"), ("$gt", .string "1")]),
        ("c", .string "x")]), ("Value", .number (.natural 1))]]) := by rfl
  have hreadOther : Json.read?
      r#"[{"Matcher":{"b":{"$compare":"version","$gt":"1"},"C":"x"},"Value":1}]"# =
      some (.array [.object [("Matcher", .object [("C", .string "x"),
        ("b", .object [("$compare", .string "version"), ("$gt", .string "1")])]),
        ("Value", .number (.natural 1))]]) := by rfl
  have hrecased : WrittenDocument.Recased (fun _ => True)
      ⟨[], some (.array [.object [("Matcher", .object [
        ("b", .object [("$compare", .string "version"), ("$gt", .string "1")]),
        ("c", .string "x")]), ("Value", .number (.natural 1))]]), none, none⟩
      ⟨[], some (.array [.object [("Matcher", .object [("C", .string "x"),
        ("b", .object [("$compare", .string "version"), ("$gt", .string "1")])]),
        ("Value", .number (.natural 1))]]), none, none⟩ := by
    have hb : ∀ condition, Matcher.RecasedEntry (fun _ => True) "b" condition "b" condition :=
      fun _ => .property (by decide) rfl
    have hc : ∀ condition, Matcher.RecasedEntry (fun _ => True) "c" condition "C" condition :=
      fun _ => .property (by decide) rfl
    refine ⟨.nil, ⟨_, _, rfl, rfl, .cons ⟨_, _, rfl, rfl, ?_⟩ .nil⟩, rfl, rfl⟩
    exact ⟨.reordered trivial (.cons (hb _) (.cons (hc _) .nil)) (.swap _ _ _), rfl, rfl, rfl,
      rfl, rfl, rfl⟩
  have hcompile := compile_of_document
    ((Document.compile_of_read? standard.registry hread).trans rfl)
  have hcompileOther := compile_of_document
    ((Document.compile_of_read? standard.registry hreadOther).trans rfl)
  refine ⟨_, _, _, _, _, rfl, rfl, hcompile, ⟨_, hread, rfl⟩, ⟨_, hreadOther, rfl⟩, hrecased,
    ?_, ?_⟩
  · rw [calculateText_eq hcompile]
    rfl
  · rw [calculateText_eq hcompileOther]
    rfl

end Settings

end Rulebook
