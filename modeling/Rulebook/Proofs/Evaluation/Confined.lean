import Rulebook.Proofs.Document.Rules

/-!
# What evaluations depend on

An evaluation is confined to some properties if it asks for no other and comes out the
same, events and all, for contexts that give these the same values. What is put together
from confined evaluations is confined.
-/

namespace Rulebook

namespace Evaluation

variable {α β : Type}

/-- An evaluation of contexts is confined to some properties. -/
structure Confined (names : String → Prop) (evaluate : Lookup → Evaluation α) : Prop where
  /-- It asks for no other property. -/
  asked : ∀ lookup property, .asked property ∈ (evaluate lookup).events → names property
  /-- It is the same for contexts that agree on these properties. -/
  determined : ∀ one other : Lookup, (∀ name, names name → one name = other name) →
    evaluate one = evaluate other

namespace Confined

variable {names : String → Prop}

/-- A result that does not come from the context asks for nothing. -/
theorem const (result : Except ComparisonError α) :
    Confined names fun _ => ofExcept result where
  asked := fun _ _ hmem => absurd hmem List.not_mem_nil
  determined := fun _ _ _ => rfl

/-- Asking for one of the properties is confined to them. -/
theorem ask {property : String} (h : names property) :
    Confined names fun lookup => Evaluation.ask lookup property where
  asked := by
    intro lookup other hmem
    cases List.mem_singleton.mp hmem
    exact h
  determined := by
    intro one other hagree
    rw [Evaluation.ask, Evaluation.ask, hagree property h]

/-- Digests are no properties. -/
theorem digest (hasher : Hasher) (text : String) :
    Confined names fun _ => Evaluation.digest hasher text where
  asked := by
    intro lookup property hmem
    cases List.mem_singleton.mp hmem
  determined := fun _ _ _ => rfl

/-- One confined evaluation after another is confined. -/
theorem bind {first : Lookup → Evaluation α} {next : Lookup → α → Evaluation β}
    (hfirst : Confined names first) (hnext : ∀ value, Confined names fun lookup => next lookup value) :
    Confined names fun lookup => first lookup >>= next lookup where
  asked := by
    intro lookup property hmem
    cases hresult : (first lookup).result with
    | error error =>
      rw [bind_of_error hresult] at hmem
      exact hfirst.asked lookup property hmem
    | ok value =>
      rw [bind_of_ok hresult] at hmem
      rcases List.mem_append.mp hmem with hmem | hmem
      · exact hfirst.asked lookup property hmem
      · exact (hnext value).asked lookup property hmem
  determined := by
    intro one other hagree
    have hnextSame : next one = next other :=
      funext fun value => (hnext value).determined one other hagree
    rw [hfirst.determined one other hagree, hnextSame]

end Confined

end Evaluation

namespace Matcher

mutual

/-- The properties that a matcher tests. -/
def propertyNames : Matcher → List String
  | .all parts => propertyNamesAll parts
  | .any parts => propertyNamesAll parts
  | .not part => propertyNames part
  | .property name _ => [name]

/-- The properties that the matchers of a list test. -/
def propertyNamesAll : List Matcher → List String
  | [] => []
  | part :: rest => propertyNames part ++ propertyNamesAll rest

end

variable {names : String → Prop}

mutual

/-- A matcher is confined to the properties that it tests. -/
theorem confined_run (matcher : Matcher) (h : ∀ name ∈ matcher.propertyNames, names name) :
    Evaluation.Confined names fun lookup => matcher.run lookup := by
  cases matcher with
  | all parts =>
    simp only [run]
    simp only [propertyNames] at h
    exact confined_runAll parts h
  | any parts =>
    simp only [run]
    simp only [propertyNames] at h
    exact confined_runAny parts h
  | not part =>
    simp only [run]
    simp only [propertyNames] at h
    exact (confined_run part h).bind fun matched => .const (.ok !matched)
  | property name condition =>
    simp only [run]
    simp only [propertyNames] at h
    refine (Evaluation.Confined.ask (h name List.mem_cons_self)).bind fun value => ?_
    exact .const (condition.holds (value.getD .null))

/-- So are all matchers of a list. -/
theorem confined_runAll (parts : List Matcher) (h : ∀ name ∈ propertyNamesAll parts, names name) :
    Evaluation.Confined names fun lookup => runAll lookup parts := by
  cases parts with
  | nil =>
    simp only [runAll]
    exact .const (.ok true)
  | cons part rest =>
    simp only [runAll]
    simp only [propertyNamesAll, List.forall_mem_append] at h
    refine (confined_run part h.1).bind fun matched => ?_
    cases matched with
    | true => exact confined_runAll rest h.2
    | false => exact .const (.ok false)

/-- So are some matchers of a list. -/
theorem confined_runAny (parts : List Matcher) (h : ∀ name ∈ propertyNamesAll parts, names name) :
    Evaluation.Confined names fun lookup => runAny lookup parts := by
  cases parts with
  | nil =>
    simp only [runAny]
    exact .const (.ok false)
  | cons part rest =>
    simp only [runAny]
    simp only [propertyNamesAll, List.forall_mem_append] at h
    refine (confined_run part h.1).bind fun matched => ?_
    cases matched with
    | true => exact .const (.ok true)
    | false => exact confined_runAny rest h.2

end

end Matcher

namespace Rule

variable {names : String → Prop} (hasher : Hasher)

/-- A rule keeps to some properties: its matcher tests no other, and its owner is named by
one of them. -/
structure Within (names : String → Prop) (rule : Rule) : Prop where
  /-- The matcher tests no other property. -/
  matcher : ∀ name ∈ rule.matcher.propertyNames, names name
  /-- The owner is named by one of them. -/
  owner : ∀ ownerType salt distribution, rule.outcome = .shared ownerType salt distribution →
    names (ownerProperty ownerType)

/-- A rule that keeps to some properties is confined to them. -/
theorem Within.confined_run {rule : Rule} (h : rule.Within names) :
    Evaluation.Confined names fun lookup => rule.run lookup hasher := by
  refine (Matcher.confined_run rule.matcher h.matcher).bind fun matched => ?_
  cases matched with
  | false => exact .const (.ok none)
  | true =>
    cases houtcome : rule.outcome with
    | fixed value => exact .const (.ok (some value))
    | shared ownerType salt distribution =>
      have howner := h.owner ownerType salt distribution houtcome
      refine (Evaluation.Confined.ask howner).bind fun found => ?_
      cases found.bind Json.text? with
      | none => exact .const (.ok none)
      | some owner =>
        exact (Evaluation.Confined.digest hasher _).bind fun digest => .const (.ok _)

/-- A list of rules that keep to some properties is confined to them. -/
theorem confined_runFirst {rules : List Rule} (h : ∀ rule ∈ rules, rule.Within names) :
    Evaluation.Confined names fun lookup => runFirst lookup hasher rules := by
  induction rules with
  | nil => exact .const (.ok none)
  | cons rule rest ih =>
    obtain ⟨hrule, hrest⟩ := List.forall_mem_cons.mp h
    refine (hrule.confined_run hasher).bind fun hit => ?_
    cases hit with
    | some value => exact .const (.ok (some value))
    | none => exact ih hrest

end Rule

namespace RuleTree

variable {names : String → Prop} (hasher : Hasher)

/-- A tree is confined to the properties that its rules keep to and its partitions. -/
theorem confined_run {partitions : List String} {tree : RuleTree}
    (hpartitions : ∀ partition ∈ partitions, names partition)
    (h : ∀ rule, tree.HasRule rule → rule.Within names) :
    Evaluation.Confined names fun lookup => run lookup hasher partitions tree := by
  induction partitions generalizing tree with
  | nil =>
    cases tree with
    | leaf rules =>
      simp only [run]
      exact Rule.confined_runFirst hasher fun rule hmem => h rule (.leaf hmem)
    | branch exact fallback =>
      simp only [run]
      exact .const (.ok none)
  | cons partition partitions ih =>
    obtain ⟨hpartition, hrest⟩ := List.forall_mem_cons.mp hpartitions
    cases tree with
    | leaf rules =>
      simp only [run]
      exact Rule.confined_runFirst hasher fun rule hmem => h rule (.leaf hmem)
    | branch exact fallback =>
      simp only [run_branch]
      refine (Evaluation.Confined.ask hpartition).bind fun found => .bind ?_ fun hit => ?_
      · cases hfound : ((found.bind Json.text?).map Text.lowerCase).bind
          fun key => Dict.find? key exact with
        | none => exact .const (.ok none)
        | some below =>
          obtain ⟨key, -, hkey⟩ := Option.bind_eq_some_iff.mp hfound
          have hmem := Dict.mem_of_find? hkey
          exact ih hrest fun rule hrule => h rule (.exact hmem hrule)
      · cases hit with
        | some value => exact .const (.ok (some value))
        | none =>
          cases fallback with
          | none => exact .const (.ok none)
          | some below => exact ih hrest fun rule hrule => h rule (.fallback hrule)

end RuleTree

/-- A document is confined to the properties that its rules keep to and its partitions. -/
theorem Document.confined_run {names : String → Prop} (hasher : Hasher) {document : Document}
    (hpartitions : ∀ partition ∈ document.partitions, names partition)
    (h : ∀ rule, document.rules.HasRule rule → rule.Within names) :
    Evaluation.Confined names fun lookup => document.run lookup hasher := by
  refine (RuleTree.confined_run hasher hpartitions h).bind fun hit => ?_
  exact .const (.ok (hit.or document.defaultValue))

end Rulebook
