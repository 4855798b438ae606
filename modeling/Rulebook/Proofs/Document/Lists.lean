import Rulebook.Comparer.Version
import Rulebook.Proofs.Document.Rules

/-!
# Lists of rules

A document without partitions and default value is a list of rules. Two lists make one that
compiles when both do, and that answers as the first list does, or else as the second one
does. So a rule that has nothing for a context can be left out there, and what stands behind
the rule that decides does not matter, whether it gives a value or fails.

A rule of which the context does not name the owner has nothing for that context only if its
matcher does not fail: the matcher is tried before the owner is asked for.
-/

namespace List

variable {α β : Type} {R : α → β → Prop}

/-- A list matches two joined lists item by item when it is joined from lists that match each
of them. -/
theorem forall₂_append_iff {front back : List α} {rights : List β} :
    Forall₂ R (front ++ back) rights ↔
      ∃ first second, Forall₂ R front first ∧ Forall₂ R back second ∧
        rights = first ++ second := by
  constructor
  · intro h
    induction front generalizing rights with
    | nil => exact ⟨[], rights, .nil, h, rfl⟩
    | cons item rest ih =>
      cases h with
      | cons hitem hrest =>
        obtain ⟨first, second, hfirst, hsecond, rfl⟩ := ih hrest
        exact ⟨_ :: first, second, .cons hitem hfirst, hsecond, rfl⟩
  · rintro ⟨first, second, hfirst, hsecond, rfl⟩
    exact rel_append hfirst hsecond

end List

namespace Rulebook

namespace Rule

variable {registry : Registry} {declared : Option ValueType} {lookup : Lookup}
  {written : WrittenRule}

theorem compileAll_append_eq_ok_iff {front back : List Json} {rules : List Rule} :
    compileAll registry declared (.array (front ++ back)) = .ok rules ↔
      ∃ first second, compileAll registry declared (.array front) = .ok first ∧
        compileAll registry declared (.array back) = .ok second ∧ rules = first ++ second := by
  simp only [compileAll_eq_ok_iff, List.forall₂_append_iff]

/-- A list of one item has the rule that the item writes. -/
theorem compileAll_singleton_eq_ok {item : Json} {rules : List Rule}
    (h : compileAll registry declared (.array [item]) = .ok rules)
    (hread : WrittenRule.read item = .ok written) :
    ∃ rule, compile registry declared written = .ok rule ∧ rules = [rule] := by
  cases compileAll_eq_ok_iff.mp h with
  | cons hitem hrest =>
    cases hrest
    obtain ⟨source, hsource, hrule⟩ := hitem
    rw [hread] at hsource
    cases hsource
    exact ⟨_, hrule, rfl⟩

/-- A context passes over a rule: the matcher does not hold, or the rule has several variants,
its matcher does not fail, and the context does not name the owner with a scalar. -/
inductive PassedOver (registry : Registry) (lookup : Lookup) (written : WrittenRule) : Prop where
  /-- The matcher does not hold. -/
  | unmatched {matcher : Matcher}
      (hmatcher : Matcher.compile registry written.matcher = .ok matcher)
      (hheld : matcher.eval lookup = .ok false) : PassedOver registry lookup written
  /-- The owner is not named. -/
  | unowned {matcher : Matcher} {held : Bool} {ownerType : String}
      (hmatcher : Matcher.compile registry written.matcher = .ok matcher)
      (hheld : matcher.eval lookup = .ok held) (hvariants : written.variants = .multiple)
      (howner : written.ownerType = some ownerType)
      (habsent : (lookup (ownerProperty ownerType)).bind Json.text? = none) :
    PassedOver registry lookup written

/-- A rule with several variants has nothing for a context that does not name the owner. -/
theorem given_of_unowned {outcome : Outcome} {ownerType : String} (hasher : Hasher)
    (houtcome : HasOutcome declared written outcome) (hvariants : written.variants = .multiple)
    (howner : written.ownerType = some ownerType)
    (habsent : (lookup (ownerProperty ownerType)).bind Json.text? = none) :
    outcome.given lookup hasher = none := by
  rcases houtcome with ⟨hsingle, -⟩ | ⟨-, hshared⟩
  · rw [hvariants] at hsingle
    cases hsingle
  · obtain ⟨found, _, _, _, hfound, -, -, -, rfl⟩ := exists_shared_of_compileShared hshared
    rw [howner] at hfound
    cases hfound
    rw [Outcome.given, habsent, Option.bind_none]

/-- A rule that a context passes over has nothing for it. -/
theorem PassedOver.result_run (h : PassedOver registry lookup written) (hasher : Hasher)
    {rule : Rule} (hrule : compile registry declared written = .ok rule) :
    (rule.run lookup hasher).result = .ok none := by
  obtain ⟨hcompiled, houtcome⟩ := compile_eq_ok hrule
  rw [Rule.result_run]
  cases h with
  | unmatched hmatcher hheld =>
    rw [hmatcher] at hcompiled
    cases hcompiled
    rw [hheld]
    rfl
  | @unowned _ held _ hmatcher hheld hvariants howner habsent =>
    rw [hmatcher] at hcompiled
    cases hcompiled
    rw [hheld, given_of_unowned hasher houtcome hvariants howner habsent]
    cases held <;> rfl

end Rule

namespace Document

variable {registry : Registry} {declared : Option ValueType}

/-- The document of a list of rules, with a type declared beside it. -/
def compileList (registry : Registry) (declared : Option ValueType) (rules : List Json) :
    Except CompileError Document :=
  compileWritten registry ⟨[], some (.array rules), none, declared⟩

/-- The document with some rules and nothing else. -/
def ofRules (rules : List Rule) : Document := ⟨[], .leaf rules, none⟩

/-- The document of a list has the rules of the list. -/
theorem compileList_eq_ok_iff {items : List Json} {document : Document} :
    compileList registry declared items = .ok document ↔
      ∃ rules, Rule.compileAll registry declared (.array items) = .ok rules ∧
        document = ofRules rules := by
  simp only [compileList, compileWritten, checkDefault, RuleTree.compile, Except.ok_bind,
    Except.bind_eq_ok_iff, Except.map_eq_ok_iff, List.length_nil, Except.pure_eq_ok_iff, ofRules]
  constructor
  · rintro ⟨_, ⟨rules, hrules, rfl⟩, rfl⟩
    exact ⟨rules, hrules, rfl⟩
  · rintro ⟨rules, hrules, rfl⟩
    exact ⟨_, ⟨rules, hrules, rfl⟩, rfl⟩

/-- A document with rules and nothing else answers as the first of them does that has an
answer. -/
theorem evaluate_ofRules (lookup : Lookup) (hasher : Hasher) (rules : List Rule) :
    (ofRules rules).evaluate lookup hasher = (Rule.runFirst lookup hasher rules).result := by
  have hrun : (ofRules rules).rules.run lookup hasher (ofRules rules).partitions =
      Rule.runFirst lookup hasher rules := by
    simp only [ofRules, RuleTree.run]
  rw [evaluate_eq, hrun]
  cases (Rule.runFirst lookup hasher rules).result with
  | error error => rfl
  | ok hit => cases hit <;> rfl

/-- A document with joined rules answers as its front does, or else as its back does. -/
theorem evaluate_ofRules_append (lookup : Lookup) (hasher : Hasher) (front back : List Rule) :
    (ofRules (front ++ back)).evaluate lookup hasher =
      Answer.orElse ((ofRules front).evaluate lookup hasher)
        ((ofRules back).evaluate lookup hasher) := by
  simp only [evaluate_ofRules, Rule.result_runFirst_append]

/-- Joined lists make a document when each of them does. -/
theorem exists_compileList_append_iff {front back : List Json} :
    (∃ whole, compileList registry declared (front ++ back) = .ok whole) ↔
      (∃ first, compileList registry declared front = .ok first) ∧
        ∃ second, compileList registry declared back = .ok second := by
  simp only [compileList_eq_ok_iff, Rule.compileAll_append_eq_ok_iff]
  constructor
  · rintro ⟨_, _, ⟨first, second, hfirst, hsecond, -⟩, -⟩
    exact ⟨⟨_, first, hfirst, rfl⟩, _, second, hsecond, rfl⟩
  · rintro ⟨⟨_, first, hfirst, -⟩, _, second, hsecond, -⟩
    exact ⟨_, _, ⟨first, second, hfirst, hsecond, rfl⟩, rfl⟩

/-- A list makes a document when its first item and the others do. -/
theorem exists_compileList_cons_iff {item : Json} {back : List Json} :
    (∃ whole, compileList registry declared (item :: back) = .ok whole) ↔
      (∃ single, compileList registry declared [item] = .ok single) ∧
        ∃ second, compileList registry declared back = .ok second :=
  @exists_compileList_append_iff registry declared [item] back

/-- The document of joined lists answers as that of the front does, or else as that of the
back does. -/
theorem evaluate_compileList_append {front back : List Json} {whole first second : Document}
    (hwhole : compileList registry declared (front ++ back) = .ok whole)
    (hfirst : compileList registry declared front = .ok first)
    (hsecond : compileList registry declared back = .ok second) (lookup : Lookup)
    (hasher : Hasher) :
    whole.evaluate lookup hasher =
      Answer.orElse (first.evaluate lookup hasher) (second.evaluate lookup hasher) := by
  obtain ⟨rules, hrules, rfl⟩ := compileList_eq_ok_iff.mp hwhole
  obtain ⟨before, hbefore, rfl⟩ := compileList_eq_ok_iff.mp hfirst
  obtain ⟨after, hafter, rfl⟩ := compileList_eq_ok_iff.mp hsecond
  have hjoined : Rule.compileAll registry declared (.array (front ++ back)) =
      .ok (before ++ after) :=
    Rule.compileAll_append_eq_ok_iff.mpr ⟨before, after, hbefore, hafter, rfl⟩
  rw [hrules] at hjoined
  cases hjoined
  exact evaluate_ofRules_append lookup hasher before after

/-- Joined lists answer as the front does if it decides. -/
theorem evaluate_of_front_decides {front back : List Json} {whole first : Document}
    (hwhole : compileList registry declared (front ++ back) = .ok whole)
    (hfirst : compileList registry declared front = .ok first) {lookup : Lookup}
    {hasher : Hasher} (hdecides : first.evaluate lookup hasher ≠ .ok none) :
    whole.evaluate lookup hasher = first.evaluate lookup hasher := by
  obtain ⟨-, second, hsecond⟩ := exists_compileList_append_iff.mp ⟨whole, hwhole⟩
  rw [evaluate_compileList_append hwhole hfirst hsecond, Answer.orElse_of_ne hdecides]

/-- A rule that the context passes over has no part in what a list answers. -/
theorem evaluate_of_passedOver {front back : List Json} {item : Json} {written : WrittenRule}
    {whole rest : Document} (hread : WrittenRule.read item = .ok written)
    (hwhole : compileList registry declared (front ++ item :: back) = .ok whole)
    (hrest : compileList registry declared (front ++ back) = .ok rest) {lookup : Lookup}
    (hpassed : Rule.PassedOver registry lookup written) (hasher : Hasher) :
    whole.evaluate lookup hasher = rest.evaluate lookup hasher := by
  obtain ⟨⟨first, hfirst⟩, second, hsecond⟩ := exists_compileList_append_iff.mp ⟨rest, hrest⟩
  obtain ⟨-, tail, htail⟩ := exists_compileList_append_iff.mp ⟨whole, hwhole⟩
  obtain ⟨⟨single, hsingle⟩, -⟩ := exists_compileList_cons_iff.mp ⟨tail, htail⟩
  have hnothing : single.evaluate lookup hasher = .ok none := by
    obtain ⟨rules, hrules, rfl⟩ := compileList_eq_ok_iff.mp hsingle
    obtain ⟨rule, hrule, rfl⟩ := Rule.compileAll_singleton_eq_ok hrules hread
    rw [evaluate_ofRules, Rule.result_runFirst_cons, hpassed.result_run hasher hrule]
    rfl
  have htailAnswers : tail.evaluate lookup hasher = second.evaluate lookup hasher := by
    rw [evaluate_compileList_append htail hsingle hsecond, hnothing, Answer.none_orElse]
  rw [evaluate_compileList_append hwhole hfirst htail,
    evaluate_compileList_append hrest hfirst hsecond, htailAnswers]

/-- Lists of rules compose. Joined lists compile when both do, and then they answer as the
front does if that gives a value, which may be null, or fails, and else as the back does. A
rule that the context passes over can be left out, and behind a front that decides any other
list that compiles can stand. -/
theorem lists_compose (registry : Registry) (declared : Option ValueType)
    (front back : List Json) :
    ((∃ whole, compileList registry declared (front ++ back) = .ok whole) ↔
      (∃ first, compileList registry declared front = .ok first) ∧
        ∃ second, compileList registry declared back = .ok second) ∧
    (∀ whole first second, compileList registry declared (front ++ back) = .ok whole →
      compileList registry declared front = .ok first →
      compileList registry declared back = .ok second → ∀ lookup hasher,
        (first.evaluate lookup hasher ≠ .ok none →
          whole.evaluate lookup hasher = first.evaluate lookup hasher) ∧
        (first.evaluate lookup hasher = .ok none →
          whole.evaluate lookup hasher = second.evaluate lookup hasher)) ∧
    (∀ item written whole, WrittenRule.read item = .ok written →
      compileList registry declared (front ++ item :: back) = .ok whole →
      ∃ rest, compileList registry declared (front ++ back) = .ok rest ∧
        ∀ lookup hasher, Rule.PassedOver registry lookup written →
          whole.evaluate lookup hasher = rest.evaluate lookup hasher) ∧
    (∀ other whole changed first, compileList registry declared (front ++ back) = .ok whole →
      compileList registry declared (front ++ other) = .ok changed →
      compileList registry declared front = .ok first → ∀ lookup hasher,
        first.evaluate lookup hasher ≠ .ok none →
          whole.evaluate lookup hasher = changed.evaluate lookup hasher) := by
  refine ⟨exists_compileList_append_iff, ?_, ?_, ?_⟩
  · intro whole first second hwhole hfirst hsecond lookup hasher
    refine ⟨evaluate_of_front_decides hwhole hfirst, fun hnothing => ?_⟩
    rw [evaluate_compileList_append hwhole hfirst hsecond, hnothing, Answer.none_orElse]
  · intro item written whole hread hwhole
    obtain ⟨hfront, htail⟩ := exists_compileList_append_iff.mp ⟨whole, hwhole⟩
    obtain ⟨-, hback⟩ := exists_compileList_cons_iff.mp htail
    obtain ⟨rest, hrest⟩ := exists_compileList_append_iff.mpr ⟨hfront, hback⟩
    exact ⟨rest, hrest, fun lookup hasher hpassed =>
      evaluate_of_passedOver hread hwhole hrest hpassed hasher⟩
  · intro other whole changed first hwhole hchanged hfirst lookup hasher hdecides
    rw [evaluate_of_front_decides hwhole hfirst hdecides,
      evaluate_of_front_decides hchanged hfirst hdecides]

/-- A rule for null, one for owners and one that fails on a malformed version. A context with a
malformed version gets the null if the first rule matches, and fails if it does not; for want of
an owner, the second rule is as good as left out. -/
theorem lists_compose_null :
    ∃ one owned last : Json,
      one = .object [("Matcher", .object [("os", .string "a")]), ("Value", .null)] ∧
      owned = .object [("Type", .string "MultiVariant"), ("OwnerType", .string "user"),
        ("Salt", .string "s"), ("ValueDistribution", .object [("type", .string "uniform"),
          ("args", .array [.number (.natural 1)])])] ∧
      last = .object [("Matcher", .object [("v", .object [("$compare", .string "version"),
        ("$gt", .string "1")])]), ("Value", .number (.natural 2))] ∧
      ∃ whole rest, compileList .builtin none [one, owned, last] = .ok whole ∧
        compileList .builtin none [one, last] = .ok rest ∧
        ∀ hasher,
          whole.evaluate (fun name => if name = "os" then some (.string "a")
            else if name = "v" then some (.string "bad") else none) hasher = .ok (some .null) ∧
          rest.evaluate (fun name => if name = "v" then some (.string "bad") else none) hasher =
            .error ⟨"version", "bad", "components must be decimal digits"⟩ := by
  refine ⟨_, _, _, rfl, rfl, rfl, _, _, rfl, rfl, fun hasher => ?_⟩
  obtain ⟨-, hjoined, hremoved, -⟩ := lists_compose .builtin none
    [.object [("Matcher", .object [("os", .string "a")]), ("Value", .null)]]
    [.object [("Matcher", .object [("v", .object [("$compare", .string "version"),
      ("$gt", .string "1")])]), ("Value", .number (.natural 2))]]
  constructor
  · obtain ⟨rest, hrest, hsame⟩ := hremoved (.object [("Type", .string "MultiVariant"),
      ("OwnerType", .string "user"), ("Salt", .string "s"),
      ("ValueDistribution", .object [("type", .string "uniform"),
        ("args", .array [.number (.natural 1)])])]) _ _ rfl rfl
    rw [hsame _ hasher (.unowned rfl rfl rfl rfl rfl)]
    exact (hjoined rest _ _ hrest rfl rfl _ hasher).1 (by rintro ⟨⟩)
  · exact (hjoined _ _ _ rfl rfl rfl _ hasher).2 rfl

/-- A rule for owners that the context does not name makes a difference when its matcher fails:
behind it there is a value, which the context gets only without the rule. -/
theorem exists_unowned_evaluate_ne :
    ∃ item written ownerType whole rest,
      WrittenRule.read item = .ok written ∧ written.variants = .multiple ∧
      written.ownerType = some ownerType ∧
      compileList .builtin none [item, .object [("Value", .number (.natural 2))]] = .ok whole ∧
      compileList .builtin none [.object [("Value", .number (.natural 2))]] = .ok rest ∧
      ∃ lookup : Lookup, lookup (Rule.ownerProperty ownerType) = none ∧ ∀ hasher,
        whole.evaluate lookup hasher =
          .error ⟨"version", "bad", "components must be decimal digits"⟩ ∧
        rest.evaluate lookup hasher = .ok (some (.number (.natural 2))) := by
  refine ⟨.object [("Matcher", .object [("v", .object [("$compare", .string "version"),
      ("$gt", .string "1")])]), ("Type", .string "MultiVariant"), ("OwnerType", .string "user"),
      ("Salt", .string "s"), ("ValueDistribution", .object [("type", .string "uniform"),
        ("args", .array [.number (.natural 1)])])], _, _, _, _, rfl, rfl, rfl, rfl, rfl,
    fun name => if name = "v" then some (.string "bad") else none, ?_, fun hasher => ⟨?_, ?_⟩⟩
  · rfl
  · rfl
  · rfl

end Document

end Rulebook
