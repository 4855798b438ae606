import Rulebook.Matcher.Compile
import Rulebook.Proofs.Evaluation.Results

/-!
# What a matcher compiles to

An entry of a matcher compiles when its parts do. It becomes a combination of what
they compile to, or the condition of a property.
-/

namespace Rulebook.Matcher

/-- How an entry was compiled. -/
inductive CompiledEntry (registry : Registry) (key : String) : Json → Matcher → Prop where
  /-- As some of a list of matchers. -/
  | any {items : List Json} {parts : List Matcher} (hkey : key = "$or")
      (hparts : compileItems registry key items = .ok parts) :
      CompiledEntry registry key (.array items) (.any parts)
  /-- As all of a list of matchers. -/
  | all {items : List Json} {parts : List Matcher} (hkey : key = "$and")
      (hparts : compileItems registry key items = .ok parts) :
      CompiledEntry registry key (.array items) (.all parts)
  /-- As the negation of a matcher. -/
  | not {fields : List (String × Json)} {parts : List Matcher} (hkey : key = "$not")
      (hparts : compileEntries registry fields = .ok parts) :
      CompiledEntry registry key (.object fields) (.not (conjunction parts))
  /-- As the condition of a property. -/
  | property {argument : Json} {condition : Condition} (hkey : isOperatorKey key = false)
      (hcondition : Condition.compile registry key none argument = .ok condition) :
      CompiledEntry registry key argument (.property key condition)

/-- An entry that compiles was compiled in one of these ways. -/
theorem compiledEntry_of_compileEntry {registry : Registry} {key : String} {argument : Json}
    {matcher : Matcher} (h : compileEntry registry key argument = .ok matcher) :
    CompiledEntry registry key argument matcher := by
  unfold compileEntry at h
  split_ifs at h with hor hand hnot hdollar
  · cases argument with
    | array items =>
      obtain ⟨parts, hparts, h⟩ := Except.bind_eq_ok_iff.mp h
      cases h
      exact .any hor hparts
    | null | bool _ | number _ | string _ | object _ => cases h
  · cases argument with
    | array items =>
      obtain ⟨parts, hparts, h⟩ := Except.bind_eq_ok_iff.mp h
      cases h
      exact .all hand hparts
    | null | bool _ | number _ | string _ | object _ => cases h
  · cases argument with
    | object fields =>
      obtain ⟨parts, hparts, h⟩ := Except.bind_eq_ok_iff.mp h
      cases h
      exact .not hnot hparts
    | null | bool _ | number _ | string _ | array _ => cases h
  · obtain ⟨condition, hcondition, h⟩ := Except.bind_eq_ok_iff.mp h
    cases h
    exact .property (Bool.eq_false_iff.mpr hdollar) hcondition

/-- The condition of a property compiles if its entry does. -/
theorem exists_condition_of_compileEntry {registry : Registry} {key : String} {argument : Json}
    {matcher : Matcher} (hkey : isOperatorKey key = false)
    (h : compileEntry registry key argument = .ok matcher) :
    ∃ condition, Condition.compile registry key none argument = .ok condition := by
  cases compiledEntry_of_compileEntry h with
  | any hor _ => exact absurd (hor ▸ hkey) (by decide)
  | all hand _ => exact absurd (hand ▸ hkey) (by decide)
  | not hnot _ => exact absurd (hnot ▸ hkey) (by decide)
  | property _ hcondition => exact ⟨_, hcondition⟩

/-- The matcher that `$not` negates compiles if its entry does. -/
theorem exists_entries_of_compileEntry {registry : Registry} {fields : List (String × Json)}
    {matcher : Matcher} (h : compileEntry registry "$not" (.object fields) = .ok matcher) :
    ∃ parts, compileEntries registry fields = .ok parts := by
  cases compiledEntry_of_compileEntry h with
  | not _ hparts => exact ⟨_, hparts⟩
  | property hkey _ => exact absurd hkey (by decide)

/-- The matchers of `$or` and `$and` compile if their entry does. -/
theorem exists_items_of_compileEntry {registry : Registry} {key : String} {items : List Json}
    {matcher : Matcher} (hkey : key = "$or" ∨ key = "$and")
    (h : compileEntry registry key (.array items) = .ok matcher) :
    ∃ parts, compileItems registry key items = .ok parts := by
  cases compiledEntry_of_compileEntry h with
  | any _ hparts => exact ⟨_, hparts⟩
  | all _ hparts => exact ⟨_, hparts⟩
  | property hproperty _ =>
    rcases hkey with rfl | rfl
    · exact absurd hproperty (by decide)
    · exact absurd hproperty (by decide)

section

variable (registry : Registry)

/-- A matcher of the list at a key. -/
def compileItem (key : String) : Json → Except CompileError Matcher
  | .object entries => compile registry entries
  | _ => .error (.matcher key .notMatcher)

/-- The entries of a matcher compile one by one. -/
theorem compileEntries_eq_mapM (entries : List (String × Json)) :
    compileEntries registry entries =
      entries.mapM fun entry => compileEntry registry entry.1 entry.2 := by
  induction entries with
  | nil =>
    rw [compileEntries]
    rfl
  | cons entry rest ih =>
    obtain ⟨key, argument⟩ := entry
    rw [compileEntries, List.mapM_cons, ih]

/-- The matchers of a list compile one by one. -/
theorem compileItems_eq_mapM (key : String) (items : List Json) :
    compileItems registry key items = items.mapM (compileItem registry key) := by
  induction items with
  | nil =>
    rw [compileItems]
    rfl
  | cons item rest ih =>
    rw [List.mapM_cons, ← ih]
    cases item with
    | object entries =>
      rw [compileItems, compileItem, compile]
      cases compileEntries registry entries <;> rfl
    | null | bool _ | number _ | string _ | array _ =>
      simp only [compileItems]
      rfl

/-- One entry alone stands for itself. -/
theorem compile_single (key : String) (argument : Json) :
    compile registry [(key, argument)] = compileEntry registry key argument := by
  rw [compile, compileEntries_eq_mapM, List.mapM_cons, List.mapM_nil]
  cases compileEntry registry key argument <;> rfl

/-- `$or` compiles to some of what its matchers compile to. -/
theorem compileEntry_any (items : List Json) :
    compileEntry registry "$or" (.array items) =
      (items.mapM (compileItem registry "$or")).map .any := by
  unfold compileEntry
  rw [if_pos rfl, ← compileItems_eq_mapM]
  rfl

/-- `$and` compiles to all of what its matchers compile to. -/
theorem compileEntry_all (items : List Json) :
    compileEntry registry "$and" (.array items) =
      (items.mapM (compileItem registry "$and")).map .all := by
  unfold compileEntry
  rw [if_neg (by decide), if_pos rfl, ← compileItems_eq_mapM]
  rfl

/-- `$not` compiles to the negation of what its matcher compiles to. -/
theorem compileEntry_not (fields : List (String × Json)) :
    compileEntry registry "$not" (.object fields) = (compile registry fields).map .not := by
  unfold compileEntry compile
  rw [if_neg (by decide), if_neg (by decide), if_pos rfl]
  dsimp only
  cases compileEntries registry fields <;> rfl

/-- An entry without a dollar sign is that of a property. -/
theorem compileEntry_property {key : String} (h : isOperatorKey key = false)
    (argument : Json) :
    compileEntry registry key argument =
      (Condition.compile registry key none argument).map (.property key) := by
  have hor : key ≠ "$or" := by
    rintro rfl
    exact absurd h (by decide)
  have hand : key ≠ "$and" := by
    rintro rfl
    exact absurd h (by decide)
  have hnot : key ≠ "$not" := by
    rintro rfl
    exact absurd h (by decide)
  unfold compileEntry
  rw [if_neg hor, if_neg hand, if_neg hnot, h]
  rfl

/-- The condition of a property alone compiles to that of the property. -/
theorem compile_property {property : String} (h : isOperatorKey property = false)
    (condition : Json) :
    compile registry [(property, condition)] =
      (Condition.compile registry property none condition).map (.property property) := by
  rw [compile_single, compileEntry_property registry h]

end

theorem exists_compileEntries_iff {registry : Registry} {entries : List (String × Json)} :
    (∃ parts, compileEntries registry entries = .ok parts) ↔
      ∀ key argument, (key, argument) ∈ entries →
        ∃ part, compileEntry registry key argument = .ok part := by
  rw [compileEntries_eq_mapM, Except.exists_mapM_eq_ok_iff]
  exact Prod.forall

theorem exists_of_compileEntries {registry : Registry} {entries : List (String × Json)}
    {parts : List Matcher} (h : compileEntries registry entries = .ok parts) {key : String}
    {argument : Json} (hmem : (key, argument) ∈ entries) :
    ∃ part, compileEntry registry key argument = .ok part :=
  exists_compileEntries_iff.mp ⟨parts, h⟩ key argument hmem

/-- Every matcher of a list that compiles does so itself. -/
theorem exists_of_compileItems {registry : Registry} {key : String} {items : List Json}
    {parts : List Matcher} (h : compileItems registry key items = .ok parts)
    {fields : List (String × Json)} (hmem : .object fields ∈ items) :
    ∃ inner, compileEntries registry fields = .ok inner := by
  rw [compileItems_eq_mapM] at h
  obtain ⟨matcher, hmatcher⟩ := Except.exists_mapM_eq_ok_iff.mp ⟨parts, h⟩ _ hmem
  obtain ⟨inner, hinner, -⟩ := Except.bind_eq_ok_iff.mp hmatcher
  exact ⟨inner, hinner⟩

theorem eval_conjunction (lookup : Lookup) (parts : List Matcher) :
    (conjunction parts).eval lookup = Verdict.all (parts.map (eval lookup)) := by
  unfold conjunction
  split
  · simp only [List.map_cons, List.map_nil, Verdict.all, Verdict.and_true]
  · exact eval_all lookup _

end Rulebook.Matcher
