import Rulebook.Proofs.Condition.Grammar
import Rulebook.Proofs.Matcher.Compiled

/-!
# The grammar of matchers

Which values are matchers, said without compiling them: objects whose entries combine
matchers or give a property its condition. A matcher compiles exactly if it is one in this
sense.
-/

namespace Rulebook

namespace Matcher

mutual

/-- A value is a matcher: an object of entries. -/
inductive IsMatcher (registry : Registry) : Json → Prop where
  /-- Every key with its argument is an entry. -/
  | object {entries : Dict Json}
      (hentries : ∀ key argument, (key, argument) ∈ entries → IsEntry registry key argument) :
      IsMatcher registry (.object entries)

/-- A key with its argument is an entry of a matcher. -/
inductive IsEntry (registry : Registry) : String → Json → Prop where
  /-- `$or` and `$and` take a list of matchers. -/
  | matchers {key : String} {items : List Json} (hkey : key = "$or" ∨ key = "$and")
      (hitems : ∀ item ∈ items, IsMatcher registry item) : IsEntry registry key (.array items)
  /-- `$not` takes a matcher. -/
  | not {argument : Json} (hmatcher : IsMatcher registry argument) :
      IsEntry registry "$not" argument
  /-- A key without a dollar sign is a property, which takes a condition without a comparer in
  force. -/
  | property {key : String} {argument : Json} (hkey : isOperatorKey key = false)
      (hcondition : Condition.IsCondition registry none argument) :
      IsEntry registry key argument

end

variable {registry : Registry}

/-- A list of matchers compiles exactly if each of its items is an object that does. -/
theorem exists_compileItems_iff {key : String} {items : List Json} :
    (∃ parts, compileItems registry key items = .ok parts) ↔
      ∀ item ∈ items, ∃ fields matcher,
        item = .object fields ∧ compile registry fields = .ok matcher := by
  rw [compileItems_eq_mapM, Except.exists_mapM_eq_ok_iff]
  refine forall₂_congr fun item _ => ?_
  constructor
  · rintro ⟨matcher, hmatcher⟩
    cases item with
    | object fields => exact ⟨fields, matcher, rfl, hmatcher⟩
    | null | bool _ | number _ | string _ | array _ => cases hmatcher
  · rintro ⟨fields, matcher, rfl, hmatcher⟩
    exact ⟨matcher, hmatcher⟩

/-- `$or` and `$and` compile with a list of matchers that compiles. -/
theorem exists_compileEntry_of_items {key : String} (hkey : key = "$or" ∨ key = "$and")
    {items : List Json} {parts : List Matcher}
    (hparts : compileItems registry key items = .ok parts) :
    ∃ matcher, compileEntry registry key (.array items) = .ok matcher := by
  rcases hkey with rfl | rfl
  · refine ⟨.any parts, ?_⟩
    rw [compileEntry_any, ← compileItems_eq_mapM, hparts]
    rfl
  · refine ⟨.all parts, ?_⟩
    rw [compileEntry_all, ← compileItems_eq_mapM, hparts]
    rfl

-- What compiles is in the grammar, by recursion on the value that is compiled.
mutual

/-- What compiles as a matcher is one. -/
theorem isMatcher_of_compile {fields : Dict Json} {matcher : Matcher}
    (h : compile registry fields = .ok matcher) : IsMatcher registry (.object fields) := by
  obtain ⟨parts, hparts, -⟩ := Except.bind_eq_ok_iff.mp h
  refine .object fun key argument hmem => ?_
  have hlt := Json.sizeOf_lt_of_field hmem
  obtain ⟨part, hpart⟩ := exists_of_compileEntries hparts hmem
  exact isEntry_of_compileEntry hpart
termination_by (sizeOf fields, 0)

theorem isMatcher_of_compileItems {key : String} {items : List Json} {parts : List Matcher}
    (h : compileItems registry key items = .ok parts) {item : Json} (hmem : item ∈ items) :
    IsMatcher registry item := by
  obtain ⟨fields, matcher, rfl, hmatcher⟩ := exists_compileItems_iff.mp ⟨parts, h⟩ item hmem
  exact isMatcher_of_compile hmatcher
termination_by (sizeOf item, 1)

/-- What compiles as an entry is one. -/
theorem isEntry_of_compileEntry {key : String} {argument : Json} {matcher : Matcher}
    (h : compileEntry registry key argument = .ok matcher) : IsEntry registry key argument := by
  cases compiledEntry_of_compileEntry h with
  | any hkey hparts =>
    refine .matchers (Or.inl hkey) fun item hmem => ?_
    have hlt := Json.sizeOf_item_lt hmem
    exact isMatcher_of_compileItems hparts hmem
  | all hkey hparts =>
    refine .matchers (Or.inr hkey) fun item hmem => ?_
    have hlt := Json.sizeOf_item_lt hmem
    exact isMatcher_of_compileItems hparts hmem
  | not hkey hparts =>
    subst hkey
    rw [compileEntry_not] at h
    obtain ⟨inner, hinner, -⟩ := Except.map_eq_ok_iff.mp h
    exact .not (isMatcher_of_compile hinner)
  | property hkey hcondition =>
    exact .property hkey (Condition.isCondition_of_compile hcondition)
termination_by (sizeOf argument, 1)

end

-- What is in the grammar compiles, by recursion on how it is derived.
mutual

/-- A matcher is an object that compiles. -/
theorem IsMatcher.exists_compiled {value : Json} :
    IsMatcher registry value →
      ∃ fields matcher, value = .object fields ∧ compile registry fields = .ok matcher
  | .object hentries => by
    obtain ⟨parts, hparts⟩ := exists_compileEntries_iff.mpr fun name argument hmem =>
      (hentries name argument hmem).exists_compiled
    refine ⟨_, conjunction parts, rfl, ?_⟩
    rw [compile, hparts]
    rfl

/-- An entry compiles. -/
theorem IsEntry.exists_compiled {key : String} {argument : Json} :
    IsEntry registry key argument → ∃ matcher, compileEntry registry key argument = .ok matcher
  | .matchers hkey hitems => by
    obtain ⟨parts, hparts⟩ := exists_compileItems_iff.mpr fun item hmem =>
      (hitems item hmem).exists_compiled
    exact exists_compileEntry_of_items hkey hparts
  | .not hmatcher => by
    obtain ⟨fields, matcher, rfl, hcompiled⟩ := hmatcher.exists_compiled
    refine ⟨.not matcher, ?_⟩
    rw [compileEntry_not, hcompiled]
    rfl
  | .property hkey hcondition => by
    obtain ⟨condition, hcompiled⟩ := hcondition.exists_compiled
    refine ⟨.property key condition, ?_⟩
    rw [compileEntry_property registry hkey, hcompiled]
    rfl

end

/-- The compiler accepts exactly the matchers of the grammar. -/
theorem exists_compile_iff (registry : Registry) (entries : Dict Json) :
    (∃ matcher, compile registry entries = .ok matcher) ↔
      IsMatcher registry (.object entries) := by
  constructor
  · rintro ⟨matcher, hcompile⟩
    exact isMatcher_of_compile hcompile
  · intro hmatcher
    obtain ⟨fields, matcher, hfields, hcompile⟩ := hmatcher.exists_compiled
    cases hfields
    exact ⟨matcher, hcompile⟩

end Matcher

end Rulebook
