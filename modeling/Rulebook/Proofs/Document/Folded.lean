import Rulebook.Proofs.Context.Tokens
import Rulebook.Proofs.Document.Rules
import Rulebook.Proofs.Matcher.Folded
import Rulebook.Settings

/-!
# Contexts with values in another case

The values of a context may be written in another case. Without comparers and without rules
of several variants, a document sees only their lower-case forms: in its partitions, and in
every condition, whatever the kind of its literals.
-/

namespace Rulebook

/-- Two contexts give values that differ in case, or none, to the same properties. -/
def Lookup.SameFolded (lookup renewed : Lookup) : Prop :=
  ∀ name, Option.Rel Json.SameFolded (lookup name) (renewed name)

namespace Context

/-- Two tokens write values that differ in case for the same name. -/
def SameFolded (token other : String) : Prop :=
  ∃ name value text, Writes token name value ∧ Writes other name text ∧
    Text.lowerCase text = Text.lowerCase value

/-- Contexts whose values differ in case still do so after values that do are written. -/
theorem sameFolded_insert {context renewed : Context}
    (h : Lookup.SameFolded context.get? renewed.get?) (name : String) {value text : String}
    (hlower : Text.lowerCase text = Text.lowerCase value) :
    Lookup.SameFolded (context.insert name (.string value)).get?
      (renewed.insert name (.string text)).get? := by
  intro other
  by_cases hname : Text.lowerCase other = Text.lowerCase name
  · rw [get?_insert_of_same hname, get?_insert_of_same hname]
    exact .some (Or.inr ⟨value, text, rfl, rfl, hlower⟩)
  · rw [get?_insert_of_ne hname, get?_insert_of_ne hname]
    exact h other

/-- Tokens that write values that differ in case make contexts of such values. -/
theorem exists_addTokens_of_sameFolded {tokens others : List String}
    (htokens : List.Forall₂ SameFolded tokens others) {context renewed : Context}
    (h : Lookup.SameFolded context.get? renewed.get?) :
    ∃ final other, addTokens context tokens = .ok final ∧ addTokens renewed others = .ok other ∧
      Lookup.SameFolded final.get? other.get? := by
  induction htokens generalizing context renewed with
  | nil => exact ⟨context, renewed, rfl, rfl, h⟩
  | cons hfirst _ ih =>
    obtain ⟨name, value, text, hwrites, hother, hlower⟩ := hfirst
    rw [addTokens, addTokens, splitToken_of_writes hwrites, splitToken_of_writes hother]
    exact ih (sameFolded_insert h name hlower)

/-- So they do from the start. -/
theorem exists_ofTokens_of_sameFolded {tokens others : List String}
    (htokens : List.Forall₂ SameFolded tokens others) :
    ∃ context other, ofTokens tokens = .ok context ∧ ofTokens others = .ok other ∧
      Lookup.SameFolded context.get? other.get? :=
  exists_addTokens_of_sameFolded htokens fun _ => .none

end Context

variable {registry : Registry} {lookup renewed : Lookup} (hasher : Hasher)

/-- Where values differ in case, so do the values that stand for missing ones. -/
theorem Lookup.SameFolded.getD (h : Lookup.SameFolded lookup renewed) (name : String) :
    Json.SameFolded ((lookup name).getD .null) ((renewed name).getD .null) := by
  have hvalues := h name
  generalize lookup name = value, renewed name = other at hvalues ⊢
  cases hvalues with
  | some hvalue => exact hvalue
  | none => exact Or.inl rfl

/-- Contexts whose values differ in case have the same keys. -/
theorem Lookup.SameFolded.contextKey_eq (h : Lookup.SameFolded lookup renewed)
    (partition : String) :
    RuleTree.contextKey lookup partition = RuleTree.contextKey renewed partition := by
  have hvalues := h partition
  unfold RuleTree.contextKey
  generalize lookup partition = value, renewed partition = other at hvalues ⊢
  cases hvalues with
  | some hvalue => exact hvalue.lowerCase_text?
  | none => rfl

/-- A rule with one variant that is written without comparers gives the same to contexts
whose values differ in case. -/
theorem Rule.result_run_of_sameFolded (h : Lookup.SameFolded lookup renewed)
    {declared : Option ValueType} {written : WrittenRule} (hsingle : written.variants = .single)
    (hfree : ¬ Json.HasKey comparerKey (.object written.matcher)) {rule : Rule}
    (hcompile : compile registry declared written = .ok rule) :
    (rule.run lookup hasher).result = (rule.run renewed hasher).result := by
  obtain ⟨hmatcher, ⟨-, houtcome⟩ | ⟨hmultiple, -⟩⟩ := compile_eq_ok hcompile
  · obtain ⟨value, hvalue⟩ := exists_fixed_of_compileFixed houtcome
    rw [result_run, result_run, hvalue, Matcher.eval_of_sameFolded h.getD hfree hmatcher]
    rfl
  · rw [hsingle] at hmultiple
    cases hmultiple

/-- A list of rules gives the same to contexts to which each of them does. -/
theorem Rule.result_runFirst_congr {rules : List Rule}
    (h : ∀ rule ∈ rules, (rule.run lookup hasher).result = (rule.run renewed hasher).result) :
    (runFirst lookup hasher rules).result = (runFirst renewed hasher rules).result := by
  induction rules with
  | nil => rfl
  | cons rule rest ih =>
    obtain ⟨hfirst, hrest⟩ := List.forall_mem_cons.mp h
    rw [result_runFirst_cons, result_runFirst_cons, hfirst, ih hrest]

/-- A tree gives the same to contexts with the same keys to which each of its rules does. -/
theorem RuleTree.result_run_congr
    (hkeys : ∀ partition, contextKey lookup partition = contextKey renewed partition)
    (partitions : List String) {tree : RuleTree}
    (h : ∀ rule, tree.HasRule rule →
      (rule.run lookup hasher).result = (rule.run renewed hasher).result) :
    (run lookup hasher partitions tree).result = (run renewed hasher partitions tree).result := by
  induction partitions generalizing tree with
  | nil =>
    cases tree with
    | leaf rules =>
      rw [run, run]
      exact Rule.result_runFirst_congr hasher fun rule hmem => h rule (.leaf hmem)
    | branch exact fallback => rfl
  | cons partition partitions ih =>
    cases tree with
    | leaf rules =>
      rw [run, run]
      exact Rule.result_runFirst_congr hasher fun rule hmem => h rule (.leaf hmem)
    | branch exact fallback =>
      have hbelow : ∀ below, (∀ tree, below = some tree → ∀ rule, tree.HasRule rule →
          HasRule rule (.branch exact fallback)) →
          answerBelow lookup hasher partitions below =
            answerBelow renewed hasher partitions below := by
        intro below hrules
        cases below with
        | none => rfl
        | some tree => exact ih fun rule hrule => h rule (hrules tree rfl rule hrule)
      rw [result_run_branch, result_run_branch, hkeys, hbelow, hbelow]
      · rintro tree rfl rule hrule
        exact .fallback hrule
      · intro tree htree rule hrule
        obtain ⟨key, -, hkey⟩ := Option.bind_eq_some_iff.mp htree
        exact .exact (Dict.mem_of_find? hkey) hrule

namespace Settings

/-- Plain matching ignores the case of values. A document without comparers and without
rules of several variants gives the same to two lists of tokens that write, one by one,
values with the same lower-case form for the same names. -/
theorem calculateText_of_sameFolded {settings : Settings} {text : String} {document : Document}
    {written : WrittenDocument} {tokens others : List String}
    (hcompile : settings.compile text = .ok document) (hwritten : written.WrittenBy text)
    (hrules : ∀ rule, written.HasRule rule → rule.variants = .single ∧
      ¬ Json.HasKey comparerKey (.object rule.matcher))
    (htokens : List.Forall₂ Context.SameFolded tokens others) :
    settings.calculateText text tokens = settings.calculateText text others := by
  have hfrom := Document.compiledFrom_of_writtenBy hwritten (compile_eq_ok hcompile)
  obtain ⟨context, other, hcontext, hother, hsame⟩ :=
    Context.exists_ofTokens_of_sameFolded htokens
  have htree := RuleTree.result_run_congr settings.hasher hsame.contextKey_eq
    document.partitions fun rule hrule => by
      obtain ⟨source, hsource, hrule⟩ := hfrom.exists_written hrule
      obtain ⟨hsingle, hfree⟩ := hrules source hsource
      exact Rule.result_run_of_sameFolded settings.hasher hsame hsingle hfree hrule
  rw [calculateText_eq hcompile, calculateText_eq hcompile, hcontext, hother]
  simp only [calculate, Document.evaluate_eq, htree]

/-- A key, a number, a truth value and a text in two cases, with the Kelvin sign for K. -/
theorem calculateText_of_sameFolded_kelvin :
    standard.calculateText r#"{"partitions":["c"],"rules":{"k":[{"Matcher":{"b":true,"n":{"$gt":5},"p":"K"},"Value":1}]}}"#
        ["c=K", "b=True", "n=+1E1", "p=k"] =
      standard.calculateText r#"{"partitions":["c"],"rules":{"k":[{"Matcher":{"b":true,"n":{"$gt":5},"p":"K"},"Value":1}]}}"#
        ["c=\u212A", "b=tRUE", "n=+1e1", "p=\u212A"] := by
  have hread : Json.read?
      r#"{"partitions":["c"],"rules":{"k":[{"Matcher":{"b":true,"n":{"$gt":5},"p":"K"},"Value":1}]}}"# =
      some (.object [("partitions", .array [.string "c"]), ("rules", .object [("k", .array [.object
        [("Matcher", .object [("b", .bool true), ("n", .object [("$gt", .number (.natural 5))]),
          ("p", .string "K")]), ("Value", .number (.natural 1))]])])]) := by rfl
  have hcompile : standard.compile _ = .ok _ :=
    compile_of_document ((Document.compile_of_read? _ hread).trans rfl)
  obtain ⟨written, hshape, hwritten⟩ : ∃ written : WrittenDocument,
      written = ⟨["c"], some (.object [("k", .array [.object
        [("Matcher", .object [("b", .bool true), ("n", .object [("$gt", .number (.natural 5))]),
          ("p", .string "K")]), ("Value", .number (.natural 1))]])]), none, none⟩ ∧
        written.WrittenBy _ := ⟨_, rfl, _, hread, rfl⟩
  have hscalar : ∀ value : Json, value.isScalar = true → ¬ value.HasKey comparerKey :=
    fun _ => Json.not_hasKey_of_isScalar
  have hfree : ¬ Json.HasKey comparerKey (.object [("b", .bool true),
      ("n", .object [("$gt", .number (.natural 5))]), ("p", .string "K")]) := by
    simp only [Json.hasKey_cons_iff, not_or]
    exact ⟨by decide, hscalar _ rfl, by decide, ⟨by decide, hscalar _ rfl, Json.not_hasKey_nil⟩,
      by decide, hscalar _ rfl, Json.not_hasKey_nil⟩
  refine calculateText_of_sameFolded hcompile hwritten ?_ ?_
  · rintro rule ⟨rules, hrules, leaf, hleaf, items, hitems, item, hitem, hrule⟩
    rw [hshape] at hrules hleaf
    cases hrules
    cases List.mem_singleton.mp hleaf
    cases hitems
    cases List.mem_singleton.mp hitem
    cases hrule
    exact ⟨rfl, hfree⟩
  · have hsame : ∀ name value text : String, name ≠ "" → '=' ∉ name.toList →
        Text.lowerCase text = Text.lowerCase value →
        Context.SameFolded (name ++ "=" ++ value) (name ++ "=" ++ text) :=
      fun name value text hname hfree hlower =>
        ⟨name, value, text, ⟨hname, hfree, rfl⟩, ⟨hname, hfree, rfl⟩, hlower⟩
    exact .cons (hsame "c" "K" "\u212A" (by decide) (by decide) (by decide +kernel))
      (.cons (hsame "b" "True" "tRUE" (by decide) (by decide) (by decide +kernel))
        (.cons (hsame "n" "+1E1" "+1e1" (by decide) (by decide) (by decide +kernel))
          (.cons (hsame "p" "k" "\u212A" (by decide) (by decide) (by decide +kernel)) .nil)))

end Settings

end Rulebook
