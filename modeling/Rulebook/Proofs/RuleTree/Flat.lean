import Rulebook.Proofs.Document.Rules

/-!
# Partitions as an index

Partitions give no document another meaning. Its rules could as well stand in one
list, each behind the tests that the partitions have the keys that lead to it: the
first rule of that list to give a value is the one that the partitions lead to.
-/

namespace Rulebook

/-- The test that the property of a partition equals a key. -/
def Matcher.equalsKey (partition key : String) : Matcher :=
  .property partition (.compares .eq (.string key) none)

/-- A rule behind tests, which come before its own matcher. -/
def Rule.behind (tests : List Matcher) (rule : Rule) : Rule :=
  { rule with matcher := .all [.all tests, rule.matcher] }

namespace RuleTree

/-- The tests of the ordinary keys on a path, with one partition for every key. -/
def keyTests : List String → List String → List Matcher
  | partition :: partitions, key :: path =>
    if key = wildcard then keyTests partitions path
    else Matcher.equalsKey partition key :: keyTests partitions path
  | _, _ => []

/-- The rules of all lists as one list, each behind the tests of its keys. -/
def flatRules (registry : Registry) (declared : Option ValueType) (partitions : List String)
    (written : Json) : Except CompileError (List Rule) := do
  let lists ← (leaves partitions.length written).mapM fun leaf => do
    let rules ← Rule.compileAll registry declared leaf.written
    return rules.map (Rule.behind (keyTests partitions leaf.path))
  return lists.flatten

/-- No two ordinary keys of a partition are the same in lower case. -/
def DistinctKeys : Nat → Json → Prop
  | depth + 1, .object children =>
    ((children.filter (·.1 != wildcard)).Pairwise fun a b =>
      Text.lowerCase a.1 ≠ Text.lowerCase b.1) ∧
    ∀ child ∈ children, DistinctKeys depth child.2
  | _, _ => True

end RuleTree

namespace Matcher

/-- The test of a key holds exactly if the context has the key, and never fails. -/
theorem eval_equalsKey (lookup : Lookup) (partition key : String) :
    eval lookup (equalsKey partition key) =
      .ok (RuleTree.contextKey lookup partition == some (Text.lowerCase key)) := by
  rw [equalsKey, eval_property]
  simp only [Condition.holds, Condition.compareHolds, Condition.coercedHolds_eq, Coercion.order?,
    RuleTree.contextKey]
  cases lookup partition with
  | none => rfl
  | some value =>
    simp only [Option.getD_some, Option.bind_some]
    cases value.text? with
    | none => rfl
    | some text =>
      simp only [Option.map_some, Option.elim_some, Relation.holds]
      refine congrArg Except.ok ?_
      rw [Bool.eq_iff_iff, beq_iff_eq, beq_iff_eq, Option.some_inj]
      exact Std.LawfulEqOrd.compare_eq_iff_eq

end Matcher

namespace Rule

/-- A rule behind a test that holds is the rule behind the other tests. -/
theorem result_run_behind_cons {lookup : Lookup} {hasher : Hasher} {test : Matcher} {held : Bool}
    (htest : test.eval lookup = .ok held) (tests : List Matcher) (rule : Rule) :
    ((rule.behind (test :: tests)).run lookup hasher).result =
      if held then ((rule.behind tests).run lookup hasher).result else .ok none := by
  rw [result_run, result_run]
  simp only [behind, Matcher.eval_all_cons, htest]
  cases held <;> rfl

/-- A rule behind no test is the rule. -/
theorem result_run_behind_nil (lookup : Lookup) (hasher : Hasher) (rule : Rule) :
    ((rule.behind []).run lookup hasher).result = (rule.run lookup hasher).result := by
  rw [result_run, result_run]
  simp only [behind, Matcher.eval_all_cons, Matcher.eval_all_nil]
  refine congrArg (Except.map _) ?_
  cases rule.matcher.eval lookup with
  | error error => rfl
  | ok matched => cases matched <;> rfl

/-- Rules behind a test give nothing if it does not hold, and else what they give
behind the other tests. -/
theorem result_runFirst_behind_cons {lookup : Lookup} {hasher : Hasher} {test : Matcher}
    {held : Bool} (htest : test.eval lookup = .ok held) (tests : List Matcher)
    (rules : List Rule) :
    (runFirst lookup hasher (rules.map (behind (test :: tests)))).result =
      if held then (runFirst lookup hasher (rules.map (behind tests))).result
      else .ok none := by
  induction rules with
  | nil => cases held <;> rfl
  | cons rule rest ih =>
    simp only [List.map_cons, result_runFirst_cons, ih, result_run_behind_cons htest]
    cases held <;> rfl

/-- Rules behind no test give what they give by themselves. -/
theorem result_runFirst_behind_nil (lookup : Lookup) (hasher : Hasher) (rules : List Rule) :
    (runFirst lookup hasher (rules.map (behind []))).result =
      (runFirst lookup hasher rules).result := by
  induction rules with
  | nil => rfl
  | cons rule rest ih =>
    simp only [List.map_cons, result_runFirst_cons, ih, result_run_behind_nil]

/-- Lists of rules that all give nothing give nothing together. -/
theorem result_runFirst_flatMap_none {α : Type} {lookup : Lookup} {hasher : Hasher}
    {parts : List α} {rulesOf : α → List Rule}
    (h : ∀ part ∈ parts, (runFirst lookup hasher (rulesOf part)).result = .ok none) :
    (runFirst lookup hasher (parts.flatMap rulesOf)).result = .ok none := by
  induction parts with
  | nil => rfl
  | cons part rest ih =>
    obtain ⟨hpart, hrest⟩ := List.forall_mem_cons.mp h
    rw [List.flatMap_cons, result_runFirst_append, hpart, Answer.none_orElse]
    exact ih hrest

end Rule

namespace RuleTree

/-- The rules of some lists as one list, each behind the tests of its keys. -/
def flatOf (rulesOf : Json → List Rule) (partitions : List String) (lists : List Leaf) :
    List Rule :=
  lists.flatMap fun leaf => (rulesOf leaf.written).map (Rule.behind (keyTests partitions leaf.path))

/-- No test comes from `*`. -/
theorem flatOf_below_wildcard (rulesOf : Json → List Rule) (partition : String)
    (partitions : List String) (lists : List Leaf) :
    flatOf rulesOf (partition :: partitions) (lists.map (Leaf.below wildcard)) =
      flatOf rulesOf partitions lists := by
  simp only [flatOf, List.flatMap_map, Leaf.below, keyTests, if_true]

/-- The rules below an ordinary key give nothing to a context that has another key in
the partition. -/
theorem result_flatOf_below {lookup : Lookup} {hasher : Hasher} (rulesOf : Json → List Rule)
    (partition : String) (partitions : List String) {key : String} (hkey : key ≠ wildcard)
    (lists : List Leaf) :
    (Rule.runFirst lookup hasher
        (flatOf rulesOf (partition :: partitions) (lists.map (Leaf.below key)))).result =
      if contextKey lookup partition == some (Text.lowerCase key) then
        (Rule.runFirst lookup hasher (flatOf rulesOf partitions lists)).result
      else .ok none := by
  have htest := Matcher.eval_equalsKey lookup partition key
  induction lists with
  | nil => cases contextKey lookup partition == some (Text.lowerCase key) <;> rfl
  | cons leaf rest ih =>
    simp only [flatOf, List.map_cons, List.flatMap_cons, Rule.result_runFirst_append,
      Leaf.below, keyTests, if_neg hkey, Rule.result_runFirst_behind_cons htest] at ih ⊢
    rw [ih]
    cases contextKey lookup partition == some (Text.lowerCase key) <;> rfl

/-- The rules of a list, and none if they do not compile. -/
def listed (registry : Registry) (declared : Option ValueType) (written : Json) : List Rule :=
  (Rule.compileAll registry declared written).toOption.getD []

/-- Every list of a tree that compiles does so itself. -/
theorem compileAll_eq_listed {registry : Registry} {declared : Option ValueType} {depth : Nat}
    {written : Json} {tree : RuleTree}
    (hcompile : compile registry declared depth written = .ok tree) {leaf : Leaf}
    (hleaf : leaf ∈ leaves depth written) :
    Rule.compileAll registry declared leaf.written =
      .ok (listed registry declared leaf.written) := by
  obtain ⟨rules, hrules⟩ := exists_rules_of_mem_leaves hcompile hleaf
  rw [listed, hrules]
  rfl

/-- A tree that compiles has its rules in one list as well. -/
theorem flatRules_of_compile {registry : Registry} {declared : Option ValueType}
    {partitions : List String} {written : Json} {tree : RuleTree}
    (hcompile : compile registry declared partitions.length written = .ok tree) :
    flatRules registry declared partitions written =
      .ok (flatOf (listed registry declared) partitions (leaves partitions.length written)) := by
  rw [flatRules]
  refine Except.bind_eq_ok_iff.mpr ⟨(leaves partitions.length written).map fun leaf =>
    (listed registry declared leaf.written).map (Rule.behind (keyTests partitions leaf.path)),
    Except.mapM_eq_ok_iff.mpr ?_, ?_⟩
  · rw [List.forall₂_map_right_iff, List.forall₂_same]
    intro leaf hleaf
    rw [compileAll_eq_listed hcompile hleaf]
    rfl
  · rw [flatOf, List.flatMap_def]
    rfl

/-- A child of a partition, compiled. -/
def compiledChild (registry : Registry) (declared : Option ValueType) (depth : Nat)
    (child : String × Json) : String × RuleTree :=
  (child.1, (compile registry declared depth child.2).toOption.getD (.leaf []))

/-- Children that compile are compiled one by one. -/
theorem eq_map_compiledChild {registry : Registry} {declared : Option ValueType} {depth : Nat}
    {children : List (String × Json)} {compiled : List (String × RuleTree)}
    (h : List.Forall₂ (Below (compile registry declared depth)) children compiled) :
    compiled = children.map (compiledChild registry declared depth) := by
  induction h with
  | nil => rfl
  | @cons child below _ _ hchild _ ih =>
    obtain ⟨hkey, htree⟩ := hchild
    have hbelow : below = compiledChild registry declared depth child := by
      rw [compiledChild, htree, ← hkey]
      rfl
    rw [List.map_cons, ← ih, ← hbelow]

/-- What is put in before `*` does not matter to what is below `*`. -/
theorem fallbackOf_filter (fallback : Option RuleTree) (compiled : List (String × RuleTree)) :
    fallbackOf fallback (compiled.filter (·.1 == wildcard)) = fallbackOf fallback compiled := by
  induction compiled generalizing fallback with
  | nil => rfl
  | cons child rest ih =>
    by_cases hkey : child.1 = wildcard
    · rw [List.filter_cons_of_pos (by simp [hkey])]
      simp only [fallbackOf, ih]
    · rw [List.filter_cons_of_neg (by simp [hkey])]
      simp only [fallbackOf, ih, if_neg hkey]

/-- What is below `*` does not matter to the ordinary keys. -/
theorem exactOf_filter (exact : Dict RuleTree) (compiled : List (String × RuleTree)) :
    exactOf exact (compiled.filter (·.1 != wildcard)) = exactOf exact compiled := by
  induction compiled generalizing exact with
  | nil => rfl
  | cons child rest ih =>
    by_cases hkey : child.1 = wildcard
    · rw [List.filter_cons_of_neg (by simp [hkey])]
      simp only [exactOf, ih, if_pos hkey]
    · rw [List.filter_cons_of_pos (by simp [hkey])]
      simp only [exactOf, ih]

/-- Children are put in one after the other. -/
theorem exactOf_append (exact : Dict RuleTree) (front back : List (String × RuleTree)) :
    exactOf exact (front ++ back) = exactOf (exactOf exact front) back := by
  induction front generalizing exact with
  | nil => rfl
  | cons child rest ih =>
    simp only [List.cons_append, exactOf, ih]

/-- Other keys leave what is below a key. -/
theorem find?_exactOf_of_forall_ne {key : String} {compiled : List (String × RuleTree)}
    (h : ∀ child ∈ compiled, key ≠ Text.lowerCase child.1) (exact : Dict RuleTree) :
    Dict.find? key (exactOf exact compiled) = Dict.find? key exact := by
  induction compiled generalizing exact with
  | nil => rfl
  | cons child rest ih =>
    obtain ⟨hchild, hrest⟩ := List.forall_mem_cons.mp h
    rw [exactOf, ih hrest]
    split_ifs
    · rfl
    · exact Dict.find?_insert_of_ne hchild child.2 exact

section Partition

variable {lookup : Lookup} {hasher : Hasher} {rulesOf : Json → List Rule} {depth : Nat}
  {compiledOf : String × Json → String × RuleTree}

/-- The rules of the lists below a child, behind the tests of their keys. -/
def flatBelow (rulesOf : Json → List Rule) (partitions : List String) (depth : Nat)
    (child : String × Json) : List Rule :=
  flatOf rulesOf partitions ((leaves depth child.2).map (Leaf.below child.1))

/-- The rules of a partition are those below its ordinary keys and then those below
`*`. -/
theorem flatOf_leaves_succ (partitions : List String) (children : List (String × Json)) :
    flatOf rulesOf partitions (leaves (depth + 1) (.object children)) =
      (children.filter (·.1 != wildcard)).flatMap (flatBelow rulesOf partitions depth) ++
        (children.filter (·.1 == wildcard)).flatMap (flatBelow rulesOf partitions depth) := by
  rw [← List.flatMap_append, ← ordinaryFirst, leaves, flatOf, List.flatMap_assoc]
  rfl

/-- The rules below an ordinary key give nothing to a context with another key, and
what the compiled child gives to one with this key. -/
theorem result_flatBelow (partition : String) {partitions : List String}
    {child : String × Json} (hordinary : child.1 ≠ wildcard)
    (hbelow : (run lookup hasher partitions (compiledOf child).2).result =
      (Rule.runFirst lookup hasher (flatOf rulesOf partitions (leaves depth child.2))).result) :
    (Rule.runFirst lookup hasher
        (flatBelow rulesOf (partition :: partitions) depth child)).result =
      if contextKey lookup partition = some (Text.lowerCase child.1) then
        (run lookup hasher partitions (compiledOf child).2).result
      else .ok none := by
  rw [flatBelow, result_flatOf_below rulesOf partition partitions hordinary, hbelow]
  simp only [beq_iff_eq]

/-- Of children that differ in lower case, a partition holds each one under its key. -/
theorem find?_exactOf_of_mem {front back : List (String × RuleTree)}
    {child : String × RuleTree} (hordinary : child.1 ≠ wildcard)
    (hback : ∀ other ∈ back, Text.lowerCase child.1 ≠ Text.lowerCase other.1)
    (exact : Dict RuleTree) :
    Dict.find? (Text.lowerCase child.1) (exactOf exact (front ++ child :: back)) =
      some child.2 := by
  rw [exactOf_append, exactOf, if_neg hordinary, find?_exactOf_of_forall_ne hback,
    Dict.find?_insert_self]

/-- A partition holds nothing under a key that none of its children has. -/
theorem bind_find?_exactOf_eq_none {key : Option String} {compiled : List (String × RuleTree)}
    (h : ∀ child ∈ compiled, key ≠ some (Text.lowerCase child.1)) :
    (key.bind fun key => Dict.find? key (exactOf [] compiled)) = none := by
  cases key with
  | none => rfl
  | some key =>
    rw [Option.bind_some, find?_exactOf_of_forall_ne, Dict.find?_nil]
    exact fun child hmem heq => h child hmem (congrArg some heq)

/-- Of ordinary keys that differ in lower case, the one that the context has answers
alone. -/
theorem result_ordinary (partition : String) {partitions : List String}
    {children : List (String × Json)} (hordinary : ∀ child ∈ children, child.1 ≠ wildcard)
    (hdistinct : children.Pairwise fun a b => Text.lowerCase a.1 ≠ Text.lowerCase b.1)
    (hkeys : ∀ child, (compiledOf child).1 = child.1)
    (hbelow : ∀ child ∈ children, (run lookup hasher partitions (compiledOf child).2).result =
      (Rule.runFirst lookup hasher (flatOf rulesOf partitions (leaves depth child.2))).result) :
    (Rule.runFirst lookup hasher
        (children.flatMap (flatBelow rulesOf (partition :: partitions) depth))).result =
      answerBelow lookup hasher partitions ((contextKey lookup partition).bind fun key =>
        Dict.find? key (exactOf [] (children.map compiledOf))) := by
  -- Children under other keys than that of the context give nothing in the flat list.
  have hothers : ∀ others : List (String × Json), (∀ other ∈ others, other ∈ children ∧
      contextKey lookup partition ≠ some (Text.lowerCase other.1)) →
      (Rule.runFirst lookup hasher
        (others.flatMap (flatBelow rulesOf (partition :: partitions) depth))).result =
        .ok none := by
    intro others hall
    refine Rule.result_runFirst_flatMap_none fun other hmem => ?_
    obtain ⟨hchild, hne⟩ := hall other hmem
    rw [result_flatBelow partition (hordinary other hchild) (hbelow other hchild), if_neg hne]
  by_cases hheld : ∃ child ∈ children,
      contextKey lookup partition = some (Text.lowerCase child.1)
  · obtain ⟨child, hchild, hkey⟩ := hheld
    have hown := result_flatBelow partition (hordinary child hchild) (hbelow child hchild)
    rw [if_pos hkey] at hown
    have hwild : (compiledOf child).1 ≠ wildcard := by
      rw [hkeys]
      exact hordinary child hchild
    obtain ⟨front, back, rfl⟩ := List.append_of_mem hchild
    obtain ⟨-, hback, hcross⟩ := List.pairwise_append.mp hdistinct
    have hback := (List.pairwise_cons.mp hback).1
    have hfrontNone := hothers front fun other hmem => by
      rw [hkey, ne_eq, Option.some_inj]
      exact ⟨List.mem_append_left _ hmem,
        Ne.symm (hcross other hmem child List.mem_cons_self)⟩
    have hbackNone := hothers back fun other hmem => by
      rw [hkey, ne_eq, Option.some_inj]
      exact ⟨List.mem_append_right _ (List.mem_cons_of_mem _ hmem), hback other hmem⟩
    have hfound : Dict.find? (Text.lowerCase child.1)
        (exactOf [] ((front ++ child :: back).map compiledOf)) = some (compiledOf child).2 := by
      rw [List.map_append, List.map_cons, ← hkeys child]
      refine find?_exactOf_of_mem hwild (List.forall_mem_map.mpr fun other hmem => ?_) []
      rw [hkeys, hkeys]
      exact hback other hmem
    rw [List.flatMap_append, List.flatMap_cons, Rule.result_runFirst_append,
      Rule.result_runFirst_append, hfrontNone, hbackNone, hown, Answer.none_orElse,
      Answer.orElse_none, hkey, Option.bind_some, hfound]
    rfl
  · have hnone : ∀ child ∈ children,
        contextKey lookup partition ≠ some (Text.lowerCase child.1) :=
      fun child hmem heq => hheld ⟨child, hmem, heq⟩
    rw [bind_find?_exactOf_eq_none]
    · exact hothers children fun child hmem => ⟨hmem, hnone child hmem⟩
    · refine List.forall_mem_map.mpr fun child hmem => ?_
      rw [hkeys]
      exact hnone child hmem

/-- What is below `*` answers as it does in the flat list. -/
theorem result_wildcard (partition : String) {partitions : List String}
    {children : List (String × Json)} (hordered : Dict.Ordered children)
    (hkeys : ∀ child, (compiledOf child).1 = child.1)
    (hbelow : ∀ child ∈ children, (run lookup hasher partitions (compiledOf child).2).result =
      (Rule.runFirst lookup hasher (flatOf rulesOf partitions (leaves depth child.2))).result) :
    (Rule.runFirst lookup hasher ((children.filter (·.1 == wildcard)).flatMap
        (flatBelow rulesOf (partition :: partitions) depth))).result =
      answerBelow lookup hasher partitions
        (fallbackOf none ((children.filter (·.1 == wildcard)).map compiledOf)) := by
  cases hstarred : children.filter (·.1 == wildcard) with
  | nil => rfl
  | cons child rest =>
    have hmem : ∀ other ∈ child :: rest, other ∈ children ∧ other.1 = wildcard := by
      intro other hother
      rw [← hstarred] at hother
      obtain ⟨hchild, hkey⟩ := List.mem_filter.mp hother
      exact ⟨hchild, beq_iff_eq.mp hkey⟩
    obtain ⟨hchild, hkey⟩ := hmem child List.mem_cons_self
    -- The keys of an object increase, so `*` is there only once.
    have hrest : rest = [] := by
      have hincreasing : (child :: rest).Pairwise fun a b => a.1 < b.1 := by
        rw [← hstarred]
        exact hordered.filter _
      refine List.eq_nil_iff_forall_not_mem.mpr fun other hother => ?_
      have hlt := (List.pairwise_cons.mp hincreasing).1 other hother
      rw [hkey, (hmem other (List.mem_cons_of_mem _ hother)).2] at hlt
      exact String.lt_irrefl _ hlt
    have hwild : (compiledOf child).1 = wildcard := by rw [hkeys, hkey]
    subst hrest
    rw [List.flatMap_singleton, flatBelow, hkey, flatOf_below_wildcard, ← hbelow child hchild]
    simp only [List.map_cons, List.map_nil, fallbackOf, if_pos hwild, answerBelow]

end Partition

/-- A compiled child is what its partition was compiled with. -/
theorem compile_compiledChild {registry : Registry} {declared : Option ValueType} {depth : Nat}
    {children : List (String × Json)} {compiled : List (String × RuleTree)}
    (h : List.Forall₂ (Below (compile registry declared depth)) children compiled)
    {child : String × Json} (hchild : child ∈ children) :
    compile registry declared depth child.2 =
      .ok (compiledChild registry declared depth child).2 := by
  obtain ⟨below, -, -, hbelow⟩ := h.exists_right hchild
  rw [compiledChild, hbelow]
  rfl

/-- A compiled tree answers as the flat list of its rules does. -/
theorem result_run_eq_flat {registry : Registry} {declared : Option ValueType}
    {partitions : List String} {written : Json} {tree : RuleTree}
    (hcompile : compile registry declared partitions.length written = .ok tree)
    (horder : written.InKeyOrder) (hdistinct : DistinctKeys partitions.length written)
    (lookup : Lookup) (hasher : Hasher) :
    (run lookup hasher partitions tree).result =
      (Rule.runFirst lookup hasher (flatOf (listed registry declared) partitions
        (leaves partitions.length written))).result := by
  -- The induction goes down the partitions; order and distinct keys go down with them.
  induction partitions generalizing written tree with
  | nil =>
    obtain ⟨rules, hrules, rfl⟩ := Except.map_eq_ok_iff.mp hcompile
    have hlisted : listed registry declared written = rules := by
      rw [listed, hrules]
      rfl
    have hflat : flatOf (listed registry declared) [] (leaves 0 written) =
        rules.map (Rule.behind []) := by
      rw [leaves, flatOf, List.flatMap_singleton, hlisted]
      rfl
    rw [run, List.length_nil, hflat, Rule.result_runFirst_behind_nil]
  | cons partition partitions ih =>
    obtain ⟨children, compiled, rfl, hcompiled, rfl⟩ := compile_succ_eq_ok hcompile
    obtain ⟨hkeysDistinct, hbelowDistinct⟩ := hdistinct
    have hbelow : ∀ child ∈ children,
        (run lookup hasher partitions
          (compiledChild registry declared partitions.length child).2).result =
        (Rule.runFirst lookup hasher (flatOf (listed registry declared) partitions
          (leaves partitions.length child.2))).result := by
      intro child hchild
      exact ih (compile_compiledChild hcompiled hchild) (horder.field hchild)
        (hbelowDistinct child hchild)
    have hexact := result_ordinary partition
      (fun child hchild => by simpa using (List.mem_filter.mp hchild).2) hkeysDistinct
      (fun child => rfl) fun child hchild => hbelow child (List.mem_of_mem_filter hchild)
    have hfallback := result_wildcard partition horder.ordered
      (fun child => rfl) hbelow
    rw [result_run_branch, List.length_cons, flatOf_leaves_succ, Rule.result_runFirst_append,
      hexact, hfallback, ← exactOf_filter, ← fallbackOf_filter,
      eq_map_compiledChild hcompiled, List.filter_map, List.filter_map]
    rfl

end RuleTree

/-- Partitions are an index. If no two ordinary keys of a partition are the same in
lower case, a document gives to every context what its rules give it in one list,
each behind the tests that the partitions have its keys, or fails as they do. -/
theorem Document.evaluate_eq_flat {registry : Registry} {text : String} {document : Document}
    {written : WrittenDocument} {rules : Json}
    (hcompile : compile registry text = .ok document) (hwritten : written.WrittenBy text)
    (hrules : written.rules = some rules)
    (hdistinct : RuleTree.DistinctKeys written.partitions.length rules) :
    ∃ flat, RuleTree.flatRules registry written.valueType written.partitions rules = .ok flat ∧
      ∀ lookup hasher,
        (document.rules.run lookup hasher document.partitions).result =
          (Rule.runFirst lookup hasher flat).result ∧
        document.evaluate lookup hasher =
          evaluate lookup hasher ⟨[], .leaf flat, written.defaultValue⟩ := by
  have hfrom := compiledFrom_of_writtenBy hwritten hcompile
  obtain ⟨found, hfound, htree⟩ := hfrom.rules
  rw [hrules] at hfound
  cases hfound
  refine ⟨_, RuleTree.flatRules_of_compile htree, fun lookup hasher => ?_⟩
  have hrun := RuleTree.result_run_eq_flat htree (hwritten.inKeyOrder hrules) hdistinct
    lookup hasher
  rw [← hfrom.partitions] at hrun
  refine ⟨?_, ?_⟩
  · rw [hrun, hfrom.partitions]
  · rw [evaluate_eq, evaluate_eq, hrun, hfrom.defaultValue, hfrom.partitions]
    rfl

/-- Two keys and `*`, with one rule below them. -/
theorem Document.evaluate_eq_flat_two_keys :
    ∃ written rules document flat, WrittenDocument.WrittenBy written
        r#"{"partitions":["c"],"rules":{"*":[],"A":[{"Value":"x"}],"b":[]}}"# ∧
      written.rules = some rules ∧ RuleTree.DistinctKeys written.partitions.length rules ∧
      Document.compile .empty
        r#"{"partitions":["c"],"rules":{"*":[],"A":[{"Value":"x"}],"b":[]}}"# =
        .ok document ∧
      RuleTree.flatRules .empty written.valueType written.partitions rules = .ok flat ∧
      flat.length = 1 ∧ ∀ lookup hasher,
        (document.rules.run lookup hasher document.partitions).result =
          (Rule.runFirst lookup hasher flat).result ∧
        document.evaluate lookup hasher =
          evaluate lookup hasher ⟨[], .leaf flat, written.defaultValue⟩ := by
  have hread : Json.read?
      r#"{"partitions":["c"],"rules":{"*":[],"A":[{"Value":"x"}],"b":[]}}"# =
      some (.object [("partitions", .array [.string "c"]),
        ("rules", .object [("*", .array []), ("A", .array [.object [("Value", .string "x")]]),
          ("b", .array [])])]) := by rfl
  have hwritten : WrittenDocument.WrittenBy ⟨["c"], some (.object [("*", .array []),
      ("A", .array [.object [("Value", .string "x")]]), ("b", .array [])]), none, none⟩ _ :=
    ⟨_, hread, rfl⟩
  have hdistinct : RuleTree.DistinctKeys 1 (.object [("*", .array []),
      ("A", .array [.object [("Value", .string "x")]]), ("b", .array [])]) := by
    refine ⟨by decide +kernel, fun child _ => ?_⟩
    simp only [RuleTree.DistinctKeys]
  have hcompile := (compile_of_read? .empty hread).trans rfl
  obtain ⟨flat, hflat, hall⟩ := evaluate_eq_flat hcompile hwritten rfl hdistinct
  have hlength : flat.length = 1 := by
    cases hflat
    rfl
  exact ⟨_, _, _, flat, hwritten, rfl, hdistinct, hcompile, hflat, hlength, hall⟩

end Rulebook
