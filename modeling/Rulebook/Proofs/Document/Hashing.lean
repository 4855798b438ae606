import Rulebook.Proofs.Distribution.Shares
import Rulebook.Proofs.Document.Rules

/-!
# The digest that decides

A matcher asks for properties only. A rule asks for a digest only when its matcher
matches and the context names the owner, and then every number picks a value. So an
evaluation asks for one digest at most, asks for nothing after it, and ends with the
value that it picks.
-/

namespace Rulebook

namespace Evaluation

variable {α β : Type}

/-- An evaluation asks for no digest. -/
def HashesNothing (evaluation : Evaluation α) : Prop :=
  ∀ text, .hashed text ∉ evaluation.events

theorem hashesNothing_pure (result : α) : (pure result : Evaluation α).HashesNothing := by
  intro text
  rw [pure_eq]
  exact List.not_mem_nil

theorem hashesNothing_ask (lookup : Lookup) (property : String) :
    (ask lookup property).HashesNothing := by
  intro text hmem
  cases List.mem_singleton.mp hmem

/-- Two evaluations that ask for no digest ask for none one after the other. -/
theorem HashesNothing.bind {first : Evaluation α} {next : α → Evaluation β}
    (hfirst : first.HashesNothing) (hnext : ∀ value, (next value).HashesNothing) :
    (first >>= next).HashesNothing := by
  intro text
  cases hresult : first.result with
  | error error =>
    rw [bind_of_error hresult]
    exact hfirst text
  | ok value =>
    rw [bind_of_ok hresult]
    exact List.not_mem_append (hfirst text) (hnext value text)

/-- An evaluation asks for no digest, or for one that decides: it is asked for last, and
the value assigned with it is the result. -/
inductive HashesToDecide (assigns : String → Json → Prop)
    (evaluation : Evaluation (Option Json)) : Prop where
  /-- No digest is asked for. -/
  | never (hnothing : evaluation.HashesNothing)
  /-- The last event is a digest, the only one. -/
  | last {earlier : List Event} {text : String} {value : Json} (hassigns : assigns text value)
      (hevents : evaluation.events = earlier ++ [.hashed text])
      (hearlier : ∀ other, .hashed other ∉ earlier)
      (hresult : evaluation.result = .ok (some value))

variable {assigns : String → Json → Prop}

/-- What asks for no digest may come before one that decides. -/
theorem HashesToDecide.after {first : Evaluation α} {next : α → Evaluation (Option Json)}
    (hfirst : first.HashesNothing)
    (hnext : ∀ value, first.result = .ok value → HashesToDecide assigns (next value)) :
    HashesToDecide assigns (first >>= next) := by
  cases hresult : first.result with
  | error error =>
    rw [bind_of_error hresult]
    exact .never hfirst
  | ok value =>
    rw [bind_of_ok hresult]
    cases hnext value hresult with
    | never hnothing => exact .never fun text => List.not_mem_append (hfirst text) (hnothing text)
    | @last earlier text _ hassigns hevents hearlier hnextResult =>
      have hall : first.events ++ (next value).events =
          (first.events ++ earlier) ++ [.hashed text] := by
        rw [hevents, List.append_assoc]
      exact .last hassigns hall (fun other => List.not_mem_append (hfirst other) (hearlier other))
        hnextResult

/-- A second part that is tried only without a value comes after no digest. -/
theorem HashesToDecide.orElse {first : Evaluation (Option Json)}
    {next : Option Json → Evaluation (Option Json)} (hfirst : HashesToDecide assigns first)
    (hsome : ∀ value, next (some value) = pure (some value))
    (hnone : HashesToDecide assigns (next none)) : HashesToDecide assigns (first >>= next) := by
  cases hfirst with
  | never hnothing =>
    refine .after hnothing fun hit _ => ?_
    cases hit with
    | none => exact hnone
    | some value =>
      rw [hsome]
      exact .never (hashesNothing_pure _)
  | @last earlier text value hassigns hevents hearlier hresult =>
    have hsame : first >>= next = ⟨first.events, .ok (some value)⟩ := by
      rw [bind_of_ok hresult, hsome, pure_eq, List.append_nil]
    rw [hsame]
    exact .last hassigns hevents hearlier rfl

/-- What one part assigns, a larger part assigns too. -/
theorem HashesToDecide.mono {evaluation : Evaluation (Option Json)}
    (h : HashesToDecide assigns evaluation) {larger : String → Json → Prop}
    (hlarger : ∀ text value, assigns text value → larger text value) :
    HashesToDecide larger evaluation := by
  cases h with
  | never hnothing => exact .never hnothing
  | last hassigns hevents hearlier hresult =>
    exact .last (hlarger _ _ hassigns) hevents hearlier hresult

end Evaluation

namespace Matcher

variable (lookup : Lookup)

mutual

/-- A matcher asks for no digest. -/
theorem hashesNothing_run (matcher : Matcher) : (matcher.run lookup).HashesNothing := by
  cases matcher with
  | all parts =>
    rw [run]
    exact hashesNothing_runAll parts
  | any parts =>
    rw [run]
    exact hashesNothing_runAny parts
  | not part =>
    rw [run]
    exact (hashesNothing_run part).bind fun matched => Evaluation.hashesNothing_pure _
  | property name condition =>
    rw [run]
    refine (Evaluation.hashesNothing_ask lookup name).bind fun value text => ?_
    exact List.not_mem_nil

/-- Nor do all matchers of a list. -/
theorem hashesNothing_runAll (parts : List Matcher) : (runAll lookup parts).HashesNothing := by
  cases parts with
  | nil =>
    rw [runAll]
    exact Evaluation.hashesNothing_pure true
  | cons part rest =>
    rw [runAll]
    refine (hashesNothing_run part).bind fun matched => ?_
    cases matched with
    | true => exact hashesNothing_runAll rest
    | false => exact Evaluation.hashesNothing_pure false

/-- Nor do some matchers of a list. -/
theorem hashesNothing_runAny (parts : List Matcher) : (runAny lookup parts).HashesNothing := by
  cases parts with
  | nil =>
    rw [runAny]
    exact Evaluation.hashesNothing_pure false
  | cons part rest =>
    rw [runAny]
    refine (hashesNothing_run part).bind fun matched => ?_
    cases matched with
    | true => exact Evaluation.hashesNothing_pure true
    | false => exact hashesNothing_runAny rest

end

end Matcher

namespace Rule

/-- A rule assigns a value to an owner: it has several variants, its matcher matches, the
context names the owner, and the digest of the owner with the salt picks the value. -/
inductive Assigns (lookup : Lookup) (hasher : Hasher) : Rule → String → Json → Prop where
  /-- The text hashed is that of the owner with the salt. -/
  | owner {matcher : Matcher} {ownerType salt owner : String} {distribution : Distribution}
      {value : Json} (hmatched : matcher.eval lookup = .ok true)
      (howner : (lookup (ownerProperty ownerType)).bind Json.text? = some owner)
      (hpick : distribution.pick (hasher (textBytes (hashInput owner salt))).bucket =
        some value) :
      Assigns lookup hasher ⟨matcher, .shared ownerType salt distribution⟩
        (hashInput owner salt) value

/-- Every number picks a value of the distribution of a rule, if it has one. -/
def AlwaysPicks (rule : Rule) : Prop :=
  ∀ ownerType salt distribution, rule.outcome = .shared ownerType salt distribution →
    ∀ number, ∃ value, distribution.pick number = some value

variable {lookup : Lookup} {hasher : Hasher}

/-- A rule whose matcher matches asks for a digest only to assign a value. -/
theorem hashesToDecide_outcome {matcher : Matcher} {outcome : Outcome}
    (hpicks : (Rule.mk matcher outcome).AlwaysPicks) (hmatched : matcher.eval lookup = .ok true) :
    Evaluation.HashesToDecide (Assigns lookup hasher ⟨matcher, outcome⟩)
      (Outcome.run lookup hasher outcome) := by
  cases outcome with
  | fixed value => exact .never (Evaluation.hashesNothing_pure _)
  | shared ownerType salt distribution =>
    rw [Outcome.run]
    have hask : Evaluation.ask lookup (ownerProperty ownerType) =
        ⟨[.asked (ownerProperty ownerType)], .ok (lookup (ownerProperty ownerType))⟩ := rfl
    rw [Evaluation.bind_of_ok (by rw [hask])]
    cases howner : (lookup (ownerProperty ownerType)).bind Json.text? with
    | none => exact .never fun text hmem => by simp [hask, Evaluation.pure_eq] at hmem
    | some owner =>
      obtain ⟨value, hpick⟩ := hpicks ownerType salt distribution rfl
        (hasher (textBytes (hashInput owner salt))).bucket
      have hassigns : Assigns lookup hasher ⟨matcher, .shared ownerType salt distribution⟩
          (hashInput owner salt) value := .owner hmatched howner hpick
      have hearlier : ∀ other, Event.hashed other ∉ [Event.asked (ownerProperty ownerType)] := by
        simp
      exact .last hassigns rfl hearlier (congrArg Except.ok hpick)

/-- A rule asks for a digest only to assign a value. -/
theorem hashesToDecide_run {rule : Rule} (hpicks : rule.AlwaysPicks) :
    Evaluation.HashesToDecide (rule.Assigns lookup hasher) (rule.run lookup hasher) := by
  obtain ⟨matcher, outcome⟩ := rule
  refine .after (Matcher.hashesNothing_run lookup matcher) fun matched hmatched => ?_
  cases matched with
  | false => exact .never (Evaluation.hashesNothing_pure _)
  | true => exact hashesToDecide_outcome hpicks hmatched

/-- A list of rules asks for a digest only to assign a value by one of them. -/
theorem hashesToDecide_runFirst {rules : List Rule} (hpicks : ∀ rule ∈ rules, rule.AlwaysPicks) :
    Evaluation.HashesToDecide
      (fun text value => ∃ rule ∈ rules, rule.Assigns lookup hasher text value)
      (runFirst lookup hasher rules) := by
  induction rules with
  | nil => exact .never (Evaluation.hashesNothing_pure _)
  | cons rule rest ih =>
    obtain ⟨hrule, hrest⟩ := List.forall_mem_cons.mp hpicks
    refine .orElse ?_ (fun value => rfl) ?_
    · refine (hashesToDecide_run hrule).mono fun text value hassigns => ?_
      exact ⟨rule, List.mem_cons_self, hassigns⟩
    · refine (ih hrest).mono fun text value hassigns => ?_
      obtain ⟨other, hmem, hother⟩ := hassigns
      exact ⟨other, List.mem_cons_of_mem _ hmem, hother⟩

end Rule

namespace RuleTree

variable {lookup : Lookup} {hasher : Hasher}

/-- A tree assigns a value with a text: one of its rules does. -/
def Assigns (lookup : Lookup) (hasher : Hasher) (tree : RuleTree) (text : String)
    (value : Json) : Prop :=
  ∃ rule, tree.HasRule rule ∧ rule.Assigns lookup hasher text value

/-- Below the last partition, a digest is asked for only to assign a value. -/
theorem hashesToDecide_leaf {rules : List Rule}
    (hpicks : ∀ rule, HasRule rule (.leaf rules) → rule.AlwaysPicks) :
    Evaluation.HashesToDecide (Assigns lookup hasher (.leaf rules))
      (Rule.runFirst lookup hasher rules) := by
  have hall : ∀ rule ∈ rules, rule.AlwaysPicks := fun rule hmem => hpicks rule (.leaf hmem)
  refine (Rule.hashesToDecide_runFirst hall).mono fun text value hassigns => ?_
  obtain ⟨rule, hmem, hrule⟩ := hassigns
  exact ⟨rule, .leaf hmem, hrule⟩

/-- A tree asks for a digest only to assign a value by one of its rules. -/
theorem hashesToDecide_run {partitions : List String} {tree : RuleTree}
    (hpicks : ∀ rule, tree.HasRule rule → rule.AlwaysPicks) :
    Evaluation.HashesToDecide (tree.Assigns lookup hasher)
      (run lookup hasher partitions tree) := by
  -- Each partition tries the tree below its key and then the one below `*`.
  induction partitions generalizing tree with
  | nil =>
    cases tree with
    | leaf rules =>
      rw [run]
      exact hashesToDecide_leaf hpicks
    | branch exact fallback =>
      rw [run]
      exact .never (Evaluation.hashesNothing_pure _)
  | cons partition partitions ih =>
    cases tree with
    | leaf rules =>
      rw [run]
      exact hashesToDecide_leaf hpicks
    | branch exact fallback =>
      rw [run_branch]
      refine .after (Evaluation.hashesNothing_ask lookup partition) fun found _ => ?_
      refine .orElse ?_ (fun value => rfl) ?_
      · cases hfound : ((found.bind Json.text?).map Text.lowerCase).bind
          fun key => Dict.find? key exact with
        | none => exact .never (Evaluation.hashesNothing_pure _)
        | some below =>
          obtain ⟨key, -, hkey⟩ := Option.bind_eq_some_iff.mp hfound
          have hmem := Dict.mem_of_find? hkey
          refine (ih fun rule hrule => hpicks rule (.exact hmem hrule)).mono ?_
          rintro text value ⟨rule, hrule, hassigns⟩
          exact ⟨rule, .exact hmem hrule, hassigns⟩
      · cases fallback with
        | none => exact .never (Evaluation.hashesNothing_pure _)
        | some below =>
          refine (ih fun rule hrule => hpicks rule (.fallback hrule)).mono ?_
          rintro text value ⟨rule, hrule, hassigns⟩
          exact ⟨rule, .fallback hrule, hassigns⟩

end RuleTree

/-- A written rule assigns a value to an owner: it has several variants, its matcher
matches, the context names an owner of its type, and the digest of the owner with its
salt, or else its name, picks the value from its distribution. -/
inductive WrittenRule.Assigns (registry : Registry) (declared : Option ValueType)
    (lookup : Lookup) (hasher : Hasher) (rule : WrittenRule) : String → Json → Prop where
  /-- The text hashed is that of the owner with the salt. -/
  | owner {matcher : Matcher} {ownerType salt owner : String} {source : WrittenDistribution}
      {distribution : Distribution} {value : Json} (hvariants : rule.variants = .multiple)
      (hmatcher : Matcher.compile registry rule.matcher = .ok matcher)
      (hmatched : matcher.eval lookup = .ok true) (hownerType : rule.ownerType = some ownerType)
      (howner : (lookup (Rule.ownerProperty ownerType)).bind Json.text? = some owner)
      (hsalt : rule.salt.or rule.id = some salt) (hsource : rule.distribution = some source)
      (hdistribution : Distribution.compile declared source = .ok distribution)
      (hpick : distribution.pick (hasher (textBytes (Rule.hashInput owner salt))).bucket =
        some value) :
      Assigns registry declared lookup hasher rule (Rule.hashInput owner salt) value

/-- What a compiled rule assigns, the written one assigns. -/
theorem Rule.Assigns.written {registry : Registry} {declared : Option ValueType}
    {written : WrittenRule} {rule : Rule} {lookup : Lookup} {hasher : Hasher} {text : String}
    {value : Json} (h : rule.Assigns lookup hasher text value)
    (hcompile : compile registry declared written = .ok rule) :
    written.Assigns registry declared lookup hasher text value := by
  cases h with
  | owner hmatched howner hpick =>
    obtain ⟨hmatcher, houtcome⟩ := compile_eq_ok hcompile
    rcases houtcome with ⟨-, hfixed⟩ | ⟨hvariants, hshared⟩
    · obtain ⟨value, hvalue⟩ := exists_fixed_of_compileFixed hfixed
      cases hvalue
    · obtain ⟨_, _, source, _, hownerType, hsalt, hsource, hdistribution, hsame⟩ :=
        exists_shared_of_compileShared hshared
      cases hsame
      exact .owner hvariants hmatcher hmatched hownerType howner hsalt hsource hdistribution hpick

namespace Document

/-- A document asks for a digest only to assign a value by one of its rules. -/
theorem hashesToDecide_run {lookup : Lookup} {hasher : Hasher} {document : Document}
    (hpicks : ∀ rule, document.rules.HasRule rule → rule.AlwaysPicks) :
    Evaluation.HashesToDecide (document.rules.Assigns lookup hasher)
      (document.run lookup hasher) := by
  have hrules : Evaluation.HashesToDecide (document.rules.Assigns lookup hasher)
      (document.rules.run lookup hasher document.partitions) := RuleTree.hashesToDecide_run hpicks
  exact hrules.orElse (fun value => rfl) (.never (Evaluation.hashesNothing_pure _))

end Document

end Rulebook
