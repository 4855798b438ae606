import Rulebook.Proofs.Evaluation.Alike
import Rulebook.Proofs.Matcher.Reading
import Rulebook.Proofs.Text.LowerCase

/-!
# Matchers with properties in another case

A property may be written in another case. The matcher then compiles as before, and a
context whose names are the same in every case sees a difference only where entries
changed their order: there another one may be the first to decide or to fail.
-/

namespace Rulebook

/-- A context gives a property the same value under all names that are the same in lower
case. -/
def FoldsCase (lookup : Lookup) : Prop :=
  ∀ one other, Text.lowerCase one = Text.lowerCase other → lookup one = lookup other

/-- No operator is a property in another case. -/
theorem isOperatorKey_eq_of_lowerCase {one other : String}
    (h : Text.lowerCase one = Text.lowerCase other) : isOperatorKey one = isOperatorKey other := by
  have hone := Text.head?_lowerCase one
  rw [h, Text.head?_lowerCase] at hone
  rw [Bool.eq_iff_iff, isOperatorKey, isOperatorKey, beq_iff_eq, beq_iff_eq]
  exact hone.symm

namespace Reading

/-- What the entries of a matcher say, one by one. -/
theorem entries_eq_map (registry : Registry) (lookup : Lookup) (fields : List (String × Json)) :
    entries registry lookup fields =
      fields.map fun field => entry registry lookup field.1 field.2 := by
  induction fields with
  | nil => rw [entries, List.map_nil]
  | cons field rest ih =>
    obtain ⟨key, argument⟩ := field
    rw [entries, ih, List.map_cons]

/-- No entry of a matcher is refused in a context. -/
def Unrefused (registry : Registry) (lookup : Lookup) (fields : List (String × Json)) : Prop :=
  ∀ verdict ∈ entries registry lookup fields, ¬ Evaluation.Failed verdict

end Reading

namespace Matcher

mutual

/-- An entry of a matcher with properties in another case. -/
inductive RecasedEntry (free : List (String × Json) → Prop) :
    String → Json → String → Json → Prop where
  /-- The condition of a property is that of the property in another case. -/
  | property {name other : String} {condition : Json} (hname : isOperatorKey name = false)
      (hlower : Text.lowerCase other = Text.lowerCase name) :
      RecasedEntry free name condition other condition
  /-- A negated matcher has properties in another case. -/
  | not {fields others : List (String × Json)} (hmatcher : Recased free fields others) :
      RecasedEntry free "$not" (.object fields) "$not" (.object others)
  /-- The matchers of a list have properties in another case. -/
  | listed {key : String} {items others : List Json} (hkey : key = "$or" ∨ key = "$and")
      (hitems : RecasedItems free items others) :
      RecasedEntry free key (.array items) key (.array others)

/-- A matcher with properties in another case. If it is free to do so, its entries may
have changed their order. -/
inductive Recased (free : List (String × Json) → Prop) :
    List (String × Json) → List (String × Json) → Prop where
  /-- The entries have the same order. -/
  | ordered {fields others : List (String × Json)} (hentries : RecasedEntries free fields others) :
      Recased free fields others
  /-- The entries have another order. -/
  | reordered {fields renamed others : List (String × Json)} (hfree : free fields)
      (hentries : RecasedEntries free fields renamed) (hperm : renamed.Perm others) :
      Recased free fields others

/-- The entries of a matcher, one by one, with properties in another case. -/
inductive RecasedEntries (free : List (String × Json) → Prop) :
    List (String × Json) → List (String × Json) → Prop where
  /-- There are none. -/
  | nil : RecasedEntries free [] []
  /-- There is a first one. -/
  | cons {key other : String} {argument written : Json} {rest others : List (String × Json)}
      (hentry : RecasedEntry free key argument other written)
      (hrest : RecasedEntries free rest others) :
      RecasedEntries free ((key, argument) :: rest) ((other, written) :: others)

/-- The matchers of a list with properties in another case. -/
inductive RecasedItems (free : List (String × Json) → Prop) : List Json → List Json → Prop where
  /-- There are none. -/
  | nil : RecasedItems free [] []
  /-- There is a first one. -/
  | cons {fields written : List (String × Json)} {rest others : List Json}
      (hmatcher : Recased free fields written) (hrest : RecasedItems free rest others) :
      RecasedItems free (.object fields :: rest) (.object written :: others)

end

variable {free : List (String × Json) → Prop} {registry : Registry}

mutual

/-- An entry that compiles does so with properties in another case. -/
theorem RecasedEntry.exists_compiled {key other : String} {argument written : Json} :
    RecasedEntry free key argument other written →
      (∃ part, compileEntry registry key argument = .ok part) →
      ∃ part, compileEntry registry other written = .ok part
  | .property hname hlower => by
    rintro ⟨part, hpart⟩
    obtain ⟨condition, hcondition⟩ := exists_condition_of_compileEntry hname hpart
    have hother : isOperatorKey other = false :=
      (isOperatorKey_eq_of_lowerCase hlower).trans hname
    refine ⟨.property other condition, ?_⟩
    rw [compileEntry_property registry hother,
      Condition.compile_of_compile registry key other hcondition]
    rfl
  | .not hmatcher => by
    rintro ⟨part, hpart⟩
    obtain ⟨parts, hparts⟩ := hmatcher.exists_compiled (exists_entries_of_compileEntry hpart)
    refine ⟨.not (conjunction parts), ?_⟩
    rw [compileEntry_not, compile, hparts]
    rfl
  | .listed hkey hitems => by
    rintro ⟨part, hpart⟩
    obtain ⟨parts, hparts⟩ := hitems.exists_compiled (exists_items_of_compileEntry hkey hpart)
    rcases hkey with rfl | rfl
    · refine ⟨.any parts, ?_⟩
      rw [compileEntry_any, ← compileItems_eq_mapM, hparts]
      rfl
    · refine ⟨.all parts, ?_⟩
      rw [compileEntry_all, ← compileItems_eq_mapM, hparts]
      rfl

/-- A matcher that compiles does so with properties in another case. -/
theorem Recased.exists_compiled {fields others : List (String × Json)} :
    Recased free fields others → (∃ parts, compileEntries registry fields = .ok parts) →
      ∃ parts, compileEntries registry others = .ok parts
  | .ordered hentries => hentries.exists_compiled
  | .reordered _ hentries hperm => by
    intro hfields
    obtain ⟨parts, hparts⟩ := hentries.exists_compiled hfields
    refine exists_compileEntries_iff.mpr fun key argument hmem => ?_
    exact exists_of_compileEntries hparts (hperm.mem_iff.mpr hmem)

/-- Entries that compile do so with properties in another case. -/
theorem RecasedEntries.exists_compiled {fields others : List (String × Json)} :
    RecasedEntries free fields others → (∃ parts, compileEntries registry fields = .ok parts) →
      ∃ parts, compileEntries registry others = .ok parts
  | .nil => id
  | .cons hentry hrest => by
    rintro ⟨parts, hparts⟩
    rw [compileEntries] at hparts
    obtain ⟨part, hpart, hparts⟩ := Except.bind_eq_ok_iff.mp hparts
    obtain ⟨rest, hfields, -⟩ := Except.bind_eq_ok_iff.mp hparts
    obtain ⟨first, hfirst⟩ := hentry.exists_compiled ⟨part, hpart⟩
    obtain ⟨others, hothers⟩ := hrest.exists_compiled ⟨rest, hfields⟩
    refine ⟨first :: others, ?_⟩
    rw [compileEntries, hfirst, hothers]
    rfl

/-- The matchers of a list that compile do so with properties in another case. -/
theorem RecasedItems.exists_compiled {key : String} {items others : List Json} :
    RecasedItems free items others → (∃ parts, compileItems registry key items = .ok parts) →
      ∃ parts, compileItems registry key others = .ok parts
  | .nil => id
  | .cons hmatcher hrest => by
    rintro ⟨parts, hparts⟩
    rw [compileItems] at hparts
    obtain ⟨part, hpart, hparts⟩ := Except.bind_eq_ok_iff.mp hparts
    obtain ⟨rest, hitems, -⟩ := Except.bind_eq_ok_iff.mp hparts
    obtain ⟨first, hfirst⟩ := hmatcher.exists_compiled ⟨part, hpart⟩
    obtain ⟨others, hothers⟩ := hrest.exists_compiled ⟨rest, hitems⟩
    refine ⟨conjunction first :: others, ?_⟩
    rw [compileItems, hfirst, hothers]
    rfl

end

section Alike

open Evaluation (Alike Failed)

variable {lookup : Lookup} {lenient : Prop}

-- The cases are those of the relation. Only a change of the order needs more than that
-- the parts are alike.
mutual

/-- An entry says alike with properties in another case. -/
theorem RecasedEntry.alike (hfolds : FoldsCase lookup)
    (hfree : ∀ fields, free fields → lenient ∨ Reading.Unrefused registry lookup fields)
    {key other : String} {argument written : Json} :
    RecasedEntry free key argument other written →
      Alike lenient (Reading.entry registry lookup key argument)
        (Reading.entry registry lookup other written)
  | .property hname hlower => by
    have hother : isOperatorKey other = false :=
      (isOperatorKey_eq_of_lowerCase hlower).trans hname
    rw [Reading.entry_property registry _ hname, Reading.entry_property registry _ hother,
      hfolds _ _ hlower]
    exact .of_eq rfl
  | .not hmatcher => by
    rw [Reading.entry, Reading.entry]
    exact (hmatcher.alike hfolds hfree).map _
  | .listed hkey hitems => by
    rcases hkey with rfl | rfl
    · rw [Reading.entry, Reading.entry]
      exact Verdict.alike_any (hitems.alike hfolds hfree)
    · rw [Reading.entry, Reading.entry]
      exact Verdict.alike_all (hitems.alike hfolds hfree)

/-- A matcher says alike with properties in another case, if failures do not matter or
nothing is refused where entries change their order. -/
theorem Recased.alike (hfolds : FoldsCase lookup)
    (hfree : ∀ fields, free fields → lenient ∨ Reading.Unrefused registry lookup fields)
    {fields others : List (String × Json)} :
    Recased free fields others →
      Alike lenient (Reading.matcher registry lookup fields)
        (Reading.matcher registry lookup others)
  | .ordered hentries => Verdict.alike_all (hentries.alike hfolds hfree)
  | .reordered hthis hentries hperm => by
    have hverdicts := hperm.map fun field => Reading.entry registry lookup field.1 field.2
    rw [← Reading.entries_eq_map, ← Reading.entries_eq_map] at hverdicts
    exact Verdict.alike_all_of_perm (hentries.alike hfolds hfree) hverdicts (hfree _ hthis)

/-- Entries say alike, one by one, with properties in another case. -/
theorem RecasedEntries.alike (hfolds : FoldsCase lookup)
    (hfree : ∀ fields, free fields → lenient ∨ Reading.Unrefused registry lookup fields)
    {fields others : List (String × Json)} :
    RecasedEntries free fields others →
      List.Forall₂ (Alike lenient) (Reading.entries registry lookup fields)
        (Reading.entries registry lookup others)
  | .nil => by
    rw [Reading.entries]
    exact .nil
  | .cons hentry hrest => by
    rw [Reading.entries, Reading.entries]
    exact .cons (hentry.alike hfolds hfree) (hrest.alike hfolds hfree)

/-- The matchers of a list say alike, one by one, with properties in another case. -/
theorem RecasedItems.alike (hfolds : FoldsCase lookup)
    (hfree : ∀ fields, free fields → lenient ∨ Reading.Unrefused registry lookup fields)
    {items others : List Json} :
    RecasedItems free items others →
      List.Forall₂ (Alike lenient) (Reading.matchers registry lookup items)
        (Reading.matchers registry lookup others)
  | .nil => by
    rw [Reading.matchers]
    exact .nil
  | .cons hmatcher hrest => by
    rw [Reading.matchers, Reading.matchers]
    exact .cons (hmatcher.alike hfolds hfree) (hrest.alike hfolds hfree)

end

end Alike

end Matcher

end Rulebook
