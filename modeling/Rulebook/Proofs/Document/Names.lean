import Rulebook.Proofs.Context.Tokens
import Rulebook.Proofs.Evaluation.Confined
import Rulebook.Proofs.Matcher.Refusals
import Rulebook.Settings

/-!
# The properties that a document names

A document names its partitions, the properties of its matchers and the owners of its
rules with several variants. An evaluation asks for nothing else, so of two contexts
with the same last tokens for these properties, whatever else they have, it makes the
same.
-/

namespace Rulebook

namespace Matcher

/-- A matcher names a property, at whatever depth. -/
inductive Names (property : String) : List (String × Json) → Prop where
  /-- One of its entries is the condition of the property. -/
  | property {entries : List (String × Json)} {condition : Json}
      (hmem : (property, condition) ∈ entries) (hkey : isOperatorKey property = false) :
      Names property entries
  /-- A matcher that is negated does. -/
  | not {entries fields : List (String × Json)} (hmem : ("$not", .object fields) ∈ entries)
      (hnames : Names property fields) : Names property entries
  /-- A matcher of a list does. -/
  | listed {entries fields : List (String × Json)} {key : String} {items : List Json}
      (hkey : key = "$or" ∨ key = "$and") (hmem : (key, .array items) ∈ entries)
      (hitem : .object fields ∈ items) (hnames : Names property fields) :
      Names property entries

/-- The matchers of a list test what one of them does. -/
theorem mem_propertyNamesAll {property : String} {parts : List Matcher} :
    property ∈ propertyNamesAll parts ↔ ∃ part ∈ parts, property ∈ part.propertyNames := by
  induction parts with
  | nil => simp only [propertyNamesAll, List.not_mem_nil, false_and, exists_false]
  | cons part rest ih =>
    simp only [propertyNamesAll, List.mem_append, ih, List.mem_cons, exists_eq_or_imp]

/-- All of the parts test what one of them does. -/
theorem propertyNames_conjunction (parts : List Matcher) :
    (conjunction parts).propertyNames = propertyNamesAll parts := by
  unfold conjunction
  split
  · rw [propertyNamesAll, propertyNamesAll, List.append_nil]
  · rw [propertyNames]

/-- Every part of a matcher that compiles comes from an entry. -/
theorem exists_entry_of_mem {registry : Registry} {entries : List (String × Json)}
    {parts : List Matcher} (h : compileEntries registry entries = .ok parts) {part : Matcher}
    (hpart : part ∈ parts) :
    ∃ key argument, (key, argument) ∈ entries ∧
      compileEntry registry key argument = .ok part := by
  induction entries generalizing parts with
  | nil =>
    rw [compileEntries] at h
    cases h
    exact absurd hpart List.not_mem_nil
  | cons entry rest ih =>
    obtain ⟨key, argument⟩ := entry
    rw [compileEntries] at h
    obtain ⟨first, hfirst, h⟩ := Except.bind_eq_ok_iff.mp h
    obtain ⟨others, hothers, h⟩ := Except.bind_eq_ok_iff.mp h
    cases h
    rcases List.mem_cons.mp hpart with rfl | hpart
    · exact ⟨key, argument, List.mem_cons_self, hfirst⟩
    · obtain ⟨other, written, hmem, hother⟩ := ih hothers hpart
      exact ⟨other, written, List.mem_cons_of_mem _ hmem, hother⟩

/-- Every matcher of a list that compiles comes from an item. -/
theorem exists_item_of_mem {registry : Registry} {key : String} {items : List Json}
    {parts : List Matcher} (h : compileItems registry key items = .ok parts) {part : Matcher}
    (hpart : part ∈ parts) :
    ∃ fields inner, .object fields ∈ items ∧ compileEntries registry fields = .ok inner ∧
      part = conjunction inner := by
  induction items generalizing parts with
  | nil =>
    rw [compileItems] at h
    cases h
    exact absurd hpart List.not_mem_nil
  | cons item rest ih =>
    cases item with
    | object fields =>
      rw [compileItems] at h
      obtain ⟨inner, hinner, h⟩ := Except.bind_eq_ok_iff.mp h
      obtain ⟨others, hothers, h⟩ := Except.bind_eq_ok_iff.mp h
      cases h
      rcases List.mem_cons.mp hpart with rfl | hpart
      · exact ⟨fields, inner, List.mem_cons_self, hinner, rfl⟩
      · obtain ⟨other, found, hmem, hother, hsame⟩ := ih hothers hpart
        exact ⟨other, found, List.mem_cons_of_mem _ hmem, hother, hsame⟩
    | null | bool _ | number _ | string _ | array _ =>
      simp only [compileItems] at h
      cases h

/-- A compiled matcher tests only what the written one names. -/
theorem names_of_compileEntries {registry : Registry} {entries : List (String × Json)}
    {parts : List Matcher} (h : compileEntries registry entries = .ok parts) {property : String}
    (hproperty : property ∈ propertyNamesAll parts) : Names property entries := by
  obtain ⟨part, hpart, hproperty⟩ := mem_propertyNamesAll.mp hproperty
  obtain ⟨key, argument, hmem, hentry⟩ := exists_entry_of_mem h hpart
  have hlt := Json.sizeOf_field_lt hmem
  -- What a list of matchers tests, one of them names.
  have hlisted : ∀ items inner, (key = "$or" ∨ key = "$and") → argument = .array items →
      compileItems registry key items = .ok inner → property ∈ propertyNamesAll inner →
      Names property entries := by
    rintro items inner hkey rfl hinner hproperty
    obtain ⟨found, hfound, hproperty⟩ := mem_propertyNamesAll.mp hproperty
    obtain ⟨fields, nested, hitem, hnested, rfl⟩ := exists_item_of_mem hinner hfound
    have hnestedLt := Nat.lt_trans (Json.sizeOf_item_lt hitem) hlt
    rw [propertyNames_conjunction] at hproperty
    exact .listed hkey hmem hitem (names_of_compileEntries hnested hproperty)
  cases compiledEntry_of_compileEntry hentry with
  | any hkey hinner =>
    rw [propertyNames] at hproperty
    exact hlisted _ _ (Or.inl hkey) rfl hinner hproperty
  | all hkey hinner =>
    rw [propertyNames] at hproperty
    exact hlisted _ _ (Or.inr hkey) rfl hinner hproperty
  | not hkey hinner =>
    rw [propertyNames, propertyNames_conjunction] at hproperty
    exact .not (hkey ▸ hmem) (names_of_compileEntries hinner hproperty)
  | property hkey hcondition =>
    rw [propertyNames] at hproperty
    cases List.mem_singleton.mp hproperty
    exact .property hmem hkey
termination_by sizeOf (Json.object entries)
decreasing_by
  · exact hnestedLt
  · exact hlt

end Matcher

/-- A document names a property. -/
inductive WrittenDocument.Names (written : WrittenDocument) : String → Prop where
  /-- It divides the rules. -/
  | partition {property : String} (hmem : property ∈ written.partitions) : Names written property
  /-- The matcher of a rule names it. -/
  | matcher {rule : WrittenRule} {property : String} (hrule : written.HasRule rule)
      (hnames : Matcher.Names property rule.matcher) : Names written property
  /-- It holds the owner that picks the variant of a rule. -/
  | owner {rule : WrittenRule} {ownerType : String} (hrule : written.HasRule rule)
      (hvariants : rule.variants = .multiple) (howner : rule.ownerType = some ownerType) :
      Names written (Rule.ownerProperty ownerType)

namespace Document

/-- A compiled rule keeps to the properties that its document names. -/
theorem within_of_compile {registry : Registry} {declared : Option ValueType}
    {written : WrittenDocument} {source : WrittenRule} {rule : Rule}
    (hsource : written.HasRule source) (h : Rule.compile registry declared source = .ok rule) :
    rule.Within written.Names := by
  obtain ⟨hmatcher, houtcome⟩ := Rule.compile_eq_ok h
  refine ⟨fun property hproperty => ?_, fun ownerType salt distribution hshared => ?_⟩
  · obtain ⟨parts, hparts, hsame⟩ := Except.bind_eq_ok_iff.mp hmatcher
    have hconjunction : Matcher.conjunction parts = rule.matcher := Except.ok.inj hsame
    rw [← hconjunction, Matcher.propertyNames_conjunction] at hproperty
    exact .matcher hsource (Matcher.names_of_compileEntries hparts hproperty)
  · rcases houtcome with ⟨-, houtcome⟩ | ⟨hvariants, houtcome⟩
    · obtain ⟨value, hfixed⟩ := Rule.exists_fixed_of_compileFixed houtcome
      rw [hshared] at hfixed
      cases hfixed
    · obtain ⟨_, _, _, _, howner, -, -, -, hsame⟩ := Rule.exists_shared_of_compileShared houtcome
      rw [hshared] at hsame
      cases hsame
      exact .owner hsource hvariants howner

/-- A compiled document is confined to the properties that it names. -/
theorem CompiledFrom.confined {registry : Registry} {written : WrittenDocument}
    {document : Document} (h : CompiledFrom registry written document) (hasher : Hasher) :
    Evaluation.Confined written.Names fun lookup => document.run lookup hasher := by
  refine confined_run hasher (fun partition hmem => ?_) fun rule hrule => ?_
  · rw [h.partitions] at hmem
    exact .partition hmem
  · obtain ⟨source, hsource, hcompile⟩ := h.exists_written hrule
    exact within_of_compile hsource hcompile

end Document

namespace Settings

/-- Only named properties matter. An evaluation asks for no property that its document
does not name, and gives the same value or failure for two lists of tokens that have the
same last tokens for the named ones. -/
theorem calculateText_eq_of_names {settings : Settings} {text : String} {document : Document}
    (hcompile : settings.compile text = .ok document) :
    ∃ written : WrittenDocument, written.WrittenBy text ∧
      (∀ lookup hasher property, .asked property ∈ (document.run lookup hasher).events →
        written.Names property) ∧
      ∀ tokens others : List String,
        (∀ token ∈ tokens ++ others, ∃ name value, Context.Writes token name value) →
        (∀ property, written.Names property → ∀ value,
          Context.LastWrites tokens property value ↔ Context.LastWrites others property value) →
        settings.calculateText text tokens = settings.calculateText text others := by
  obtain ⟨written, hwritten, hfrom⟩ := Document.exists_written_of_compile (compile_eq_ok hcompile)
  refine ⟨written, hwritten, fun lookup hasher property hmem => ?_,
    fun tokens others hwell hlast => ?_⟩
  · exact (hfrom.confined hasher).asked lookup property hmem
  · obtain ⟨htokens, hothers⟩ := List.forall_mem_append.mp hwell
    obtain ⟨context, hcontext⟩ := Context.exists_addTokens_iff.mpr htokens
    obtain ⟨other, hother⟩ := Context.exists_addTokens_iff.mpr hothers
    have hagree : ∀ property, written.Names property →
        context.get? property = other.get? property := fun property hnames =>
      Context.get?_eq_of_lastWrites hcontext hother (hlast property hnames)
    have hrun := (hfrom.confined settings.hasher).determined context.get? other.get? hagree
    replace hcontext : Context.ofTokens tokens = .ok context := hcontext
    replace hother : Context.ofTokens others = .ok other := hother
    rw [calculateText_eq hcompile, calculateText_eq hcompile, hcontext, hother]
    simp only [calculate, Document.evaluate, hrun]

/-- A key and a property that two lists of tokens give the same values, beside others. -/
theorem calculateText_eq_of_names_two_lists :
    ∃ text document tokens others,
      text = r#"{"partitions":["c"],"rules":{"il":[{"Matcher":{"p":"x"},"Value":1}]}}"# ∧
      tokens = ["C=IL", "p=x", "z=1"] ∧ others = ["c=US", "P=x", "q=2", "c=IL"] ∧
      standard.compile text = .ok document ∧
      ∃ written : WrittenDocument, written.WrittenBy text ∧
        (∀ token ∈ tokens ++ others, ∃ name value, Context.Writes token name value) ∧
        (∀ property, written.Names property → ∀ value,
          Context.LastWrites tokens property value ↔
            Context.LastWrites others property value) ∧
        standard.calculateText text tokens = standard.calculateText text others := by
  have hread : Json.read?
      r#"{"partitions":["c"],"rules":{"il":[{"Matcher":{"p":"x"},"Value":1}]}}"# =
      some (.object [("partitions", .array [.string "c"]),
        ("rules", .object [("il", .array [.object [("Matcher", .object [("p", .string "x")]),
          ("Value", .number (.natural 1))]])])]) := by rfl
  obtain ⟨written, hshape, hwritten⟩ : ∃ written : WrittenDocument,
      written = ⟨["c"], some (.object [("il", .array [.object [
        ("Matcher", .object [("p", .string "x")]), ("Value", .number (.natural 1))]])]),
        none, none⟩ ∧ written.WrittenBy _ := ⟨_, rfl, _, hread, rfl⟩
  obtain ⟨document, hdocument⟩ : ∃ document, Document.compile standard.registry _ = .ok document :=
    ⟨_, (Document.compile_of_read? standard.registry hread).trans rfl⟩
  have hcompile := compile_of_document hdocument
  obtain ⟨context, hcontext⟩ : ∃ context,
      Context.ofTokens ["C=IL", "p=x", "z=1"] = .ok context ∧
        context.get? "c" = some (.string "IL") ∧ context.get? "p" = some (.string "x") :=
    ⟨_, by rfl, by rfl, by rfl⟩
  obtain ⟨other, hother⟩ : ∃ context,
      Context.ofTokens ["c=US", "P=x", "q=2", "c=IL"] = .ok context ∧
        context.get? "c" = some (.string "IL") ∧ context.get? "p" = some (.string "x") :=
    ⟨_, by rfl, by rfl, by rfl⟩
  have hwell : ∀ token ∈ ["C=IL", "p=x", "z=1"] ++ ["c=US", "P=x", "q=2", "c=IL"],
      ∃ name value, Context.Writes token name value :=
    List.forall_mem_append.mpr ⟨Context.exists_addTokens_iff.mp ⟨context, hcontext.1⟩,
      Context.exists_addTokens_iff.mp ⟨other, hother.1⟩⟩
  have hrule : ∀ rule, written.HasRule rule →
      rule.matcher = [("p", .string "x")] ∧ rule.variants = .single := by
    rintro rule ⟨rules, hrules, leaf, hleaf, items, hitems, item, hitem, hrule⟩
    rw [hshape] at hrules hleaf
    cases hrules
    cases List.mem_singleton.mp hleaf
    cases hitems
    cases List.mem_singleton.mp hitem
    cases hrule
    exact ⟨rfl, rfl⟩
  have hnames : ∀ property, written.Names property → property = "c" ∨ property = "p" := by
    intro property hproperty
    cases hproperty with
    | partition hmem =>
      rw [hshape] at hmem
      exact Or.inl (List.mem_singleton.mp hmem)
    | matcher hhas hnames =>
      rw [(hrule _ hhas).1] at hnames
      cases hnames with
      | property hmem _ =>
        cases List.mem_singleton.mp hmem
        exact Or.inr rfl
      | not hmem _ =>
        have hkey : "$not" = "p" := congrArg Prod.fst (List.mem_singleton.mp hmem)
        exact absurd hkey (by decide)
      | listed _ hmem _ _ => cases List.mem_singleton.mp hmem
    | owner hhas hvariants _ =>
      rw [(hrule _ hhas).2] at hvariants
      cases hvariants
  have hlast : ∀ property, written.Names property → ∀ value,
      Context.LastWrites ["C=IL", "p=x", "z=1"] property value ↔
        Context.LastWrites ["c=US", "P=x", "q=2", "c=IL"] property value := by
    intro property hproperty value
    rw [Context.lastWrites_iff_get? hcontext.1, Context.lastWrites_iff_get? hother.1]
    rcases hnames property hproperty with rfl | rfl
    · rw [hcontext.2.1, hother.2.1]
    · rw [hcontext.2.2, hother.2.2]
  obtain ⟨found, hfound, -, hsame⟩ := calculateText_eq_of_names hcompile
  rw [hfound.unique hwritten] at hsame
  exact ⟨_, document, _, _, rfl, rfl, rfl, hcompile, written, hwritten, hwell, hlast,
    hsame _ _ hwell hlast⟩

end Settings

end Rulebook
