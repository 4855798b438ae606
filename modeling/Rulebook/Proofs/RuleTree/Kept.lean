import Mathlib.Data.List.Pairwise
import Mathlib.Data.List.Perm.Basic
import Rulebook.Proofs.RuleTree.Flat

/-!
# The rules that partitions keep

A partition has one place for every key in lower case, and one for `*`. Of fields that
have the same place only the last is kept, with the rules below it. No other rule is
lost, and every list that is kept is found by a context that has its keys.
-/

namespace Rulebook

namespace RuleTree

/-- The place of a key in a partition: that of the key in lower case, or that of `*`. -/
def place (key : String) : Option String :=
  if key = wildcard then none else some (Text.lowerCase key)

/-- The fields of a partition whose place no later field takes. -/
def kept {α : Type} (children : List (String × α)) : List (String × α) :=
  children.pwFilter fun child other => place child.1 ≠ place other.1

/-- The lists of rules below as many partitions as `depth` says, without those below a
field whose place a later field takes. -/
def keptLeaves : Nat → Json → List Leaf
  | 0, written => [⟨[], written⟩]
  | depth + 1, .object children =>
    (kept children).flatMap fun child => (keptLeaves depth child.2).map (Leaf.below child.1)
  | _ + 1, _ => []

/-- The items of a list. -/
def Leaf.items (leaf : Leaf) : List Json :=
  match leaf.written with
  | .array items => items
  | _ => []

mutual

/-- The rules of a tree. -/
def rules : RuleTree → List Rule
  | .leaf rules => rules
  | .branch exact none => rulesAll exact
  | .branch exact (some fallback) => rulesAll exact ++ rules fallback

/-- The rules below the keys of a partition. -/
def rulesAll : List (String × RuleTree) → List Rule
  | [] => []
  | (_, below) :: rest => rules below ++ rulesAll rest

end

mutual

theorem count_eq_length (tree : RuleTree) : tree.count = tree.rules.length := by
  match tree with
  | .leaf rules => rw [count, RuleTree.rules]
  | .branch exact none => rw [count, rules, countAll_eq_length exact]
  | .branch exact (some fallback) =>
    rw [count, rules, countAll_eq_length exact, count_eq_length fallback, List.length_append]

theorem countAll_eq_length (exact : List (String × RuleTree)) :
    countAll exact = (rulesAll exact).length := by
  match exact with
  | [] => rw [countAll, rulesAll, List.length_nil]
  | (_, below) :: rest =>
    rw [countAll, rulesAll, count_eq_length below, countAll_eq_length rest, List.length_append]

end

/-- What a partition holds, each with its place. -/
def held (exact : Dict RuleTree) (fallback : Option RuleTree) : List (Option String × RuleTree) :=
  exact.map (fun entry => (some entry.1, entry.2)) ++ fallback.toList.map fun below => (none, below)

/-- The rules of a partition are those of all it holds. -/
theorem rules_branch (exact : Dict RuleTree) (fallback : Option RuleTree) :
    rules (.branch exact fallback) = (held exact fallback).flatMap fun entry => entry.2.rules := by
  have hexact : ∀ exact, rulesAll exact = exact.flatMap fun entry => entry.2.rules := by
    intro exact
    induction exact with
    | nil => rw [rulesAll, List.flatMap_nil]
    | cons entry rest ih => rw [rulesAll, List.flatMap_cons, ih]
  rw [held, List.flatMap_append, List.flatMap_map, List.flatMap_map, ← hexact]
  cases fallback with
  | none => rw [rules, Option.toList_none, List.flatMap_nil, List.append_nil]
  | some below => rw [rules, Option.toList_some, List.flatMap_singleton]

/-- A child put into a partition takes its place. -/
theorem held_put {exact : Dict RuleTree} (hordered : exact.Ordered) (fallback : Option RuleTree)
    (child : String × RuleTree) :
    (held (if child.1 = wildcard then exact
          else Dict.insert (Text.lowerCase child.1) child.2 exact)
        (if child.1 = wildcard then some child.2 else fallback)).Perm
      ((place child.1, child.2) ::
        (held exact fallback).filter fun entry => entry.1 != place child.1) := by
  by_cases hkey : child.1 = wildcard
  · have hexact : (exact.map fun entry => (some entry.1, entry.2)).filter
        (fun entry : Option String × RuleTree => entry.1 != none) =
          exact.map fun entry => (some entry.1, entry.2) := by
      refine List.filter_eq_self.mpr fun entry hmem => ?_
      obtain ⟨stored, -, rfl⟩ := List.mem_map.mp hmem
      rfl
    have hfallback : (fallback.toList.map fun below => (none, below)).filter
        (fun entry : Option String × RuleTree => entry.1 != none) = [] := by
      cases fallback <;> rfl
    rw [if_pos hkey, if_pos hkey, place, if_pos hkey, held, held, List.filter_append, hexact,
      hfallback, List.append_nil]
    exact List.perm_append_singleton _ _
  · have hexact : (exact.map fun entry => (some entry.1, entry.2)).filter
        (fun entry : Option String × RuleTree => entry.1 != some (Text.lowerCase child.1)) =
          (Dict.erase (Text.lowerCase child.1) exact).map fun entry => (some entry.1, entry.2) := by
      rw [List.filter_map, Dict.erase]
      rfl
    have hfallback : (fallback.toList.map fun below => (none, below)).filter
        (fun entry : Option String × RuleTree => entry.1 != some (Text.lowerCase child.1)) =
          fallback.toList.map fun below => (none, below) := by
      cases fallback <;> rfl
    rw [if_neg hkey, if_neg hkey, place, if_neg hkey, held, held, List.filter_append, hexact,
      hfallback]
    have hinsert := Dict.perm_insert (Text.lowerCase child.1) child.2 hordered
    exact (hinsert.map fun entry => (some entry.1, entry.2)).append_right _

/-- Putting children into a partition keeps it in order. -/
theorem ordered_exactOf {exact : Dict RuleTree} (hordered : exact.Ordered)
    (compiled : List (String × RuleTree)) : (exactOf exact compiled).Ordered := by
  induction compiled generalizing exact with
  | nil => exact hordered
  | cons child rest ih =>
    rw [exactOf]
    refine ih ?_
    split_ifs
    · exact hordered
    · exact Dict.ordered_insert _ _ hordered

/-- A field is kept if no later field takes its place. -/
theorem kept_cons_of_forall {α : Type} {child : String × α} {rest : List (String × α)}
    (h : ∀ other ∈ rest, place child.1 ≠ place other.1) :
    kept (child :: rest) = child :: kept rest :=
  List.pwFilter_cons_of_pos fun other hmem => h other (List.pwFilter_subset rest hmem)

/-- A field is not kept if a later field takes its place. -/
theorem kept_cons_of_exists {α : Type} {child : String × α} {rest : List (String × α)}
    (h : ¬ ∀ other ∈ rest, place child.1 ≠ place other.1) :
    kept (child :: rest) = kept rest := by
  refine List.pwFilter_cons_of_neg fun hkept => h ?_
  have happart : ∀ {a b c : String × α}, place a.1 ≠ place c.1 →
      place a.1 ≠ place b.1 ∨ place b.1 ≠ place c.1 := by
    intro a b c hne
    by_cases hsame : place a.1 = place b.1
    · exact Or.inr (hsame ▸ hne)
    · exact Or.inl hsame
  exact (List.forall_mem_pwFilter (R := fun a b => place a.1 ≠ place b.1) happart child rest).mp
    hkept

/-- After putting children into a partition it holds those that are kept, and what it
held before in other places. -/
theorem held_exactOf {exact : Dict RuleTree} (hordered : exact.Ordered)
    (fallback : Option RuleTree) (compiled : List (String × RuleTree)) :
    (held (exactOf exact compiled) (fallbackOf fallback compiled)).Perm
      (((held exact fallback).filter fun entry =>
          compiled.all fun child => entry.1 != place child.1) ++
        (kept compiled).map fun child => (place child.1, child.2)) := by
  -- Putting in the first child clears its place, and the children behind it clear theirs,
  -- the place of the first one among them if one of them has it too.
  induction compiled generalizing exact fallback with
  | nil =>
    have hall : (held exact fallback).filter (fun entry =>
        ([] : List (String × RuleTree)).all fun child => entry.1 != place child.1) =
          held exact fallback := List.filter_eq_self.mpr fun _ _ => rfl
    rw [hall, kept, List.pwFilter_nil, List.map_nil, List.append_nil]
    exact .refl _
  | cons child rest ih =>
    rw [exactOf, fallbackOf]
    have hput : (if child.1 = wildcard then exact
        else Dict.insert (Text.lowerCase child.1) child.2 exact).Ordered := by
      split_ifs
      · exact hordered
      · exact Dict.ordered_insert _ _ hordered
    have hstep := (held_put hordered fallback child).filter fun entry =>
      rest.all fun other => entry.1 != place other.1
    rw [List.filter_cons, List.filter_filter] at hstep
    have hrun := (ih hput _).trans (hstep.append_right _)
    simp only [List.all_cons, Bool.and_comm (_ != place child.1)]
    by_cases hlater : ∀ other ∈ rest, place child.1 ≠ place other.1
    · have hkeep : (rest.all fun other => place child.1 != place other.1) = true :=
        List.all_eq_true.mpr fun other hmem => bne_iff_ne.mpr (hlater other hmem)
      rw [if_pos hkeep] at hrun
      rw [kept_cons_of_forall hlater, List.map_cons]
      exact hrun.trans List.perm_middle.symm
    · have htake : ¬ (rest.all fun other => place child.1 != place other.1) = true := fun hall =>
        hlater fun other hmem => bne_iff_ne.mp (List.all_eq_true.mp hall other hmem)
      rw [if_neg htake] at hrun
      rw [kept_cons_of_exists hlater]
      exact hrun

/-- A compiled partition holds the compiled fields that are kept. -/
theorem held_compiled (registry : Registry) (declared : Option ValueType) (depth : Nat)
    (children : List (String × Json)) :
    (held (exactOf [] (children.map (compiledChild registry declared depth)))
        (fallbackOf none (children.map (compiledChild registry declared depth)))).Perm
      ((kept children).map fun child =>
        (place child.1, (compiledChild registry declared depth child).2)) := by
  have hheld := held_exactOf List.Pairwise.nil none
    (children.map (compiledChild registry declared depth))
  have hkept : kept (children.map (compiledChild registry declared depth)) =
      (kept children).map (compiledChild registry declared depth) :=
    List.pwFilter_map (R := fun a b : String × RuleTree => place a.1 ≠ place b.1) _ children
  rw [hkept, List.map_map] at hheld
  exact hheld

/-- A compiled partition holds a field that is kept under its key, if this is not `*`. -/
theorem find?_of_mem_kept {registry : Registry} {declared : Option ValueType} {depth : Nat}
    {children : List (String × Json)} {child : String × Json} (hchild : child ∈ kept children)
    (hordinary : child.1 ≠ wildcard) :
    Dict.find? (Text.lowerCase child.1)
        (exactOf [] (children.map (compiledChild registry declared depth))) =
      some (compiledChild registry declared depth child).2 := by
  have hplace : place child.1 = some (Text.lowerCase child.1) := if_neg hordinary
  have hheld := (held_compiled registry declared depth children).mem_iff.mpr
    (List.mem_map_of_mem hchild)
  rw [hplace, held] at hheld
  refine Dict.find?_of_mem (ordered_exactOf List.Pairwise.nil _) ?_
  rcases List.mem_append.mp hheld with hexact | hfallback
  · obtain ⟨⟨key, below⟩, hmem, hentry⟩ := List.mem_map.mp hexact
    obtain ⟨hkey, hbelow⟩ := Prod.mk.inj hentry
    rw [← Option.some.inj hkey, ← hbelow]
    exact hmem
  · obtain ⟨below, -, hbelow⟩ := List.mem_map.mp hfallback
    cases hbelow

/-- The lists that are kept are lists of the document. -/
theorem mem_leaves_of_keptLeaves {depth : Nat} {written : Json} {leaf : Leaf}
    (h : leaf ∈ keptLeaves depth written) : leaf ∈ leaves depth written := by
  induction depth generalizing written leaf with
  | zero => exact h
  | succ depth ih =>
    cases written with
    | object children =>
      obtain ⟨child, hchild, hleaf⟩ := List.mem_flatMap.mp h
      obtain ⟨below, hbelow, rfl⟩ := List.mem_map.mp hleaf
      exact mem_leaves_of_child (List.pwFilter_subset children hchild) (ih hbelow)
    | null | bool _ | number _ | string _ | array _ => exact absurd h List.not_mem_nil

/-- A compiled tree has the rules of the lists that are kept, each as often as they have
it. -/
theorem perm_rules_of_compile {registry : Registry} {declared : Option ValueType} {depth : Nat}
    {written : Json} {tree : RuleTree}
    (hcompile : compile registry declared depth written = .ok tree) :
    tree.rules.Perm
      ((keptLeaves depth written).flatMap fun leaf => listed registry declared leaf.written) := by
  induction depth generalizing written tree with
  | zero =>
    obtain ⟨rules, hrules, rfl⟩ := Except.map_eq_ok_iff.mp hcompile
    have hlisted : listed registry declared written = rules := by
      rw [listed, hrules]
      rfl
    rw [RuleTree.rules, keptLeaves, List.flatMap_singleton, hlisted]
  | succ depth ih =>
    obtain ⟨children, compiled, rfl, hcompiled, rfl⟩ := compile_succ_eq_ok hcompile
    rw [rules_branch, eq_map_compiledChild hcompiled, keptLeaves, List.flatMap_assoc]
    refine ((held_compiled registry declared depth children).flatMap_right _).trans ?_
    rw [List.flatMap_map]
    refine List.Perm.flatMap_left _ fun child hchild => ?_
    have hmem := List.pwFilter_subset children hchild
    rw [List.flatMap_map]
    exact ih (compile_compiledChild hcompiled hmem)

/-- A list has as many rules as items. -/
theorem length_listed {registry : Registry} {declared : Option ValueType} {leaf : Leaf}
    {rules : List Rule} (h : Rule.compileAll registry declared leaf.written = .ok rules) :
    (listed registry declared leaf.written).length = leaf.items.length := by
  obtain ⟨items, hitems⟩ := Rule.exists_items_of_compileAll h
  rw [listed, h, Leaf.items, hitems]
  rw [hitems] at h
  exact (Rule.compileAll_eq_ok_iff.mp h).length_eq.symm

/-- A compiled tree has as many rules as the lists that are kept have items. -/
theorem count_of_compile {registry : Registry} {declared : Option ValueType} {depth : Nat}
    {written : Json} {tree : RuleTree}
    (hcompile : compile registry declared depth written = .ok tree) :
    tree.count = ((keptLeaves depth written).flatMap Leaf.items).length := by
  rw [count_eq_length, (perm_rules_of_compile hcompile).length_eq, List.length_flatMap,
    List.length_flatMap]
  refine congrArg List.sum (List.map_congr_left fun leaf hleaf => ?_)
  exact length_listed (compileAll_eq_listed hcompile (mem_leaves_of_keptLeaves hleaf))

/-- The list of rules that a context finds under its own keys, without trying `*`. -/
def found? (lookup : Lookup) : List String → RuleTree → Option (List Rule)
  | _, .leaf rules => some rules
  | [], .branch _ _ => none
  | partition :: partitions, .branch exact _ =>
    ((contextKey lookup partition).bind fun key => Dict.find? key exact).bind fun below =>
      found? lookup partitions below

/-- If the list that a context finds under its own keys answers, the tree does so with
it. -/
theorem result_run_of_found? {lookup : Lookup} {hasher : Hasher} {partitions : List String}
    {tree : RuleTree} {list : List Rule} (hfound : found? lookup partitions tree = some list)
    (hdecided : (Rule.runFirst lookup hasher list).result ≠ .ok none) :
    (run lookup hasher partitions tree).result = (Rule.runFirst lookup hasher list).result := by
  induction partitions generalizing tree with
  | nil =>
    cases tree with
    | leaf rules =>
      cases hfound
      rw [run]
    | branch exact fallback => cases hfound
  | cons partition partitions ih =>
    cases tree with
    | leaf rules =>
      cases hfound
      rw [run]
    | branch exact fallback =>
      obtain ⟨below, hbelow, hlist⟩ := Option.bind_eq_some_iff.mp hfound
      have hrun := ih hlist
      rw [result_run_branch, hbelow, answerBelow, hrun, Answer.orElse_of_ne hdecided]

/-- A context has the keys of a path, one for every partition. -/
def HasKeys (lookup : Lookup) (partitions path : List String) : Prop :=
  List.Forall₂ (fun partition key => lookup partition = some (.string key)) partitions path

/-- A context with the keys of a list that is kept finds it, if none of them is `*`. -/
theorem found?_of_mem_keptLeaves {registry : Registry} {declared : Option ValueType}
    {lookup : Lookup} {partitions : List String} {written : Json} {tree : RuleTree}
    (hcompile : compile registry declared partitions.length written = .ok tree) {leaf : Leaf}
    (hleaf : leaf ∈ keptLeaves partitions.length written)
    (hordinary : ∀ key ∈ leaf.path, key ≠ wildcard)
    (hkeys : HasKeys lookup partitions leaf.path) :
    found? lookup partitions tree = some (listed registry declared leaf.written) := by
  induction partitions generalizing written tree leaf with
  | nil =>
    obtain ⟨rules, hrules, rfl⟩ := Except.map_eq_ok_iff.mp hcompile
    cases List.mem_singleton.mp hleaf
    rw [found?, listed, hrules]
    rfl
  | cons partition partitions ih =>
    obtain ⟨children, compiled, rfl, hcompiled, rfl⟩ := compile_succ_eq_ok hcompile
    obtain ⟨child, hchild, hleaf⟩ := List.mem_flatMap.mp hleaf
    obtain ⟨below, hbelow, rfl⟩ := List.mem_map.mp hleaf
    obtain ⟨hkey, hpath⟩ := List.forall_mem_cons.mp hordinary
    obtain ⟨hfirst, hrest⟩ := List.forall₂_cons.mp hkeys
    have hmem := List.pwFilter_subset children hchild
    have htree := ih (compile_compiledChild hcompiled hmem) hbelow hpath hrest
    have hcontext : contextKey lookup partition = some (Text.lowerCase child.1) := by
      rw [contextKey, hfirst]
      rfl
    rw [found?, eq_map_compiledChild hcompiled, hcontext, Option.bind_some,
      find?_of_mem_kept hchild hkey, Option.bind_some]
    exact htree

/-- Keys that differ in lower case have their own places, `*` being there once. -/
theorem kept_eq_self {children : List (String × Json)} (hordered : Dict.Ordered children)
    (hdistinct : (children.filter (·.1 != wildcard)).Pairwise fun a b =>
      Text.lowerCase a.1 ≠ Text.lowerCase b.1) : kept children = children := by
  refine List.pwFilter_eq_self.mpr ?_
  refine (List.Pairwise.and (List.pairwise_filter.mp hdistinct) hordered).imp ?_
  rintro a b ⟨hlower, hlt⟩ hsame
  unfold place at hsame
  split_ifs at hsame with hfirst hsecond hsecond
  · rw [hfirst, hsecond] at hlt
    exact String.lt_irrefl _ hlt
  · exact hlower (by simpa using hfirst) (by simpa using hsecond) (Option.some.inj hsame)

/-- If no two ordinary keys of a partition are the same in lower case, all lists are
kept. -/
theorem keptLeaves_perm_leaves {depth : Nat} {written : Json} (horder : written.InKeyOrder)
    (hdistinct : DistinctKeys depth written) :
    (keptLeaves depth written).Perm (leaves depth written) := by
  induction depth generalizing written with
  | zero => exact .refl _
  | succ depth ih =>
    cases written with
    | object children =>
      obtain ⟨hkeys, hbelow⟩ := hdistinct
      rw [keptLeaves, leaves, kept_eq_self horder.ordered hkeys, ordinaryFirst]
      have hall : (children.filter (·.1 != wildcard) ++ children.filter (·.1 == wildcard)).Perm
          children := by
        have hsplit := List.filter_append_perm (fun child => child.1 != wildcard) children
        simpa only [bne, Bool.not_not] using hsplit
      refine (List.Perm.flatMap_left _ fun child hchild => ?_).trans (hall.symm.flatMap_right _)
      exact (ih (horder.field hchild) (hbelow child hchild)).map _
    | null | bool _ | number _ | string _ | array _ => exact .refl _

end RuleTree

namespace Document

/-- A compiled document has the rules of some lists, and no others. -/
structure Keeps (registry : Registry) (declared : Option ValueType) (lists : List RuleTree.Leaf)
    (document : Document) : Prop where
  /-- The lists compile. -/
  compiled : ∀ leaf ∈ lists, Rule.compileAll registry declared leaf.written =
    .ok (RuleTree.listed registry declared leaf.written)
  /-- The rules are those of the lists, each as often as they have it. -/
  rules : document.rules.rules.Perm
    (lists.flatMap fun leaf => RuleTree.listed registry declared leaf.written)
  /-- The number of rules is that of all items of the lists. -/
  count : document.rules.count = (lists.flatMap RuleTree.Leaf.items).length
  /-- A context with the keys of one of the lists, none of them `*`, finds this list, and
  has its answer if it answers. -/
  found : ∀ leaf ∈ lists, (∀ key ∈ leaf.path, key ≠ RuleTree.wildcard) →
    ∀ lookup, RuleTree.HasKeys lookup document.partitions leaf.path →
      RuleTree.found? lookup document.partitions document.rules =
        some (RuleTree.listed registry declared leaf.written) ∧
      ∀ hasher, (Rule.runFirst lookup hasher
          (RuleTree.listed registry declared leaf.written)).result ≠ .ok none →
        (document.rules.run lookup hasher document.partitions).result =
          (Rule.runFirst lookup hasher
            (RuleTree.listed registry declared leaf.written)).result

/-- The order of the lists does not matter. -/
theorem Keeps.perm {registry : Registry} {declared : Option ValueType}
    {lists others : List RuleTree.Leaf} {document : Document}
    (h : document.Keeps registry declared lists) (hperm : lists.Perm others) :
    document.Keeps registry declared others where
  compiled := fun leaf hleaf => h.compiled leaf (hperm.mem_iff.mpr hleaf)
  rules := h.rules.trans (hperm.flatMap_right _)
  count := h.count.trans (hperm.flatMap_right RuleTree.Leaf.items).length_eq
  found := fun leaf hleaf => h.found leaf (hperm.mem_iff.mpr hleaf)

/-- Compiling keeps the rules of every list but those below a key that a later key of the
same partition equals in lower case. Without two such keys it keeps the rules of all
lists. -/
theorem keeps_of_compile {registry : Registry} {text : String} {document : Document}
    (hcompile : compile registry text = .ok document) :
    ∃ written : WrittenDocument, written.WrittenBy text ∧
      ∃ rules, written.rules = some rules ∧
        document.Keeps registry written.valueType
          (RuleTree.keptLeaves written.partitions.length rules) ∧
        (RuleTree.DistinctKeys written.partitions.length rules →
          document.Keeps registry written.valueType
            (RuleTree.leaves written.partitions.length rules)) := by
  obtain ⟨written, hwritten, hfrom⟩ := exists_written_of_compile hcompile
  obtain ⟨rules, hrules, htree⟩ := hfrom.rules
  have hkeeps : document.Keeps registry written.valueType
      (RuleTree.keptLeaves written.partitions.length rules) := by
    refine ⟨fun leaf hleaf => ?_, RuleTree.perm_rules_of_compile htree,
      RuleTree.count_of_compile htree, fun leaf hleaf hordinary lookup hkeys => ?_⟩
    · exact RuleTree.compileAll_eq_listed htree (RuleTree.mem_leaves_of_keptLeaves hleaf)
    · rw [hfrom.partitions] at hkeys ⊢
      have hfound := RuleTree.found?_of_mem_keptLeaves htree hleaf hordinary hkeys
      exact ⟨hfound, fun hasher hdecided => RuleTree.result_run_of_found? hfound hdecided⟩
  refine ⟨written, hwritten, rules, hrules, hkeeps, fun hdistinct => ?_⟩
  have horder := hwritten.inKeyOrder hrules
  exact hkeeps.perm (RuleTree.keptLeaves_perm_leaves horder hdistinct)

/-- Two keys that are the same in lower case: the rule below the first one is lost, and
a context with this key gets nothing. -/
theorem not_keeps_of_same_lowerCase :
    ∃ document written rules, compile .empty
        r#"{"partitions":["c"],"rules":{"IL":[{"Value":1}],"il":[]}}"# = .ok document ∧
      WrittenDocument.WrittenBy written
        r#"{"partitions":["c"],"rules":{"IL":[{"Value":1}],"il":[]}}"# ∧
      written.rules = some rules ∧ document.rules.count = 0 ∧
      ((RuleTree.leaves written.partitions.length rules).flatMap RuleTree.Leaf.items).length = 1 ∧
      (∀ hasher, document.evaluate (fun _ => some (.string "IL")) hasher = .ok none) ∧
      ¬ document.Keeps .empty written.valueType
        (RuleTree.leaves written.partitions.length rules) := by
  have hread : Json.read? r#"{"partitions":["c"],"rules":{"IL":[{"Value":1}],"il":[]}}"# =
      some (.object [("partitions", .array [.string "c"]), ("rules", .object [
        ("IL", .array [.object [("Value", .number (.natural 1))]]), ("il", .array [])])]) := by rfl
  have hwritten : WrittenDocument.WrittenBy ⟨["c"], some (.object [
      ("IL", .array [.object [("Value", .number (.natural 1))]]), ("il", .array [])]),
      none, none⟩ _ := ⟨_, hread, rfl⟩
  obtain ⟨document, hcompile, hcount, hnothing⟩ : ∃ document, compile .empty _ = .ok document ∧
      document.rules.count = 0 ∧
      ∀ hasher, document.evaluate (fun _ => some (.string "IL")) hasher = .ok none :=
    ⟨_, (compile_of_read? .empty hread).trans rfl, by rfl, fun _ => by rfl⟩
  refine ⟨document, _, _, hcompile, hwritten, rfl, hcount, by rfl, hnothing, fun hkeeps => ?_⟩
  have hall : document.rules.count = 1 := hkeeps.count
  omega

/-- Two keys that differ, with a rule below each. -/
theorem keeps_of_compile_two_keys :
    ∃ document written rules, compile .empty
        r#"{"partitions":["c"],"rules":{"IL":[{"Value":"x"}],"us":[{"Value":"y"}]}}"# =
        .ok document ∧
      WrittenDocument.WrittenBy written
        r#"{"partitions":["c"],"rules":{"IL":[{"Value":"x"}],"us":[{"Value":"y"}]}}"# ∧
      written.rules = some rules ∧ RuleTree.DistinctKeys written.partitions.length rules ∧
      document.Keeps .empty written.valueType
        (RuleTree.leaves written.partitions.length rules) ∧
      document.rules.count = 2 := by
  have hread : Json.read?
      r#"{"partitions":["c"],"rules":{"IL":[{"Value":"x"}],"us":[{"Value":"y"}]}}"# =
      some (.object [("partitions", .array [.string "c"]), ("rules", .object [
        ("IL", .array [.object [("Value", .string "x")]]),
        ("us", .array [.object [("Value", .string "y")]])])]) := by rfl
  have hcompile := (compile_of_read? .empty hread).trans rfl
  obtain ⟨written, hwritten, rules, hrules, -, hall⟩ := keeps_of_compile hcompile
  have hshape : written = ⟨["c"], some (.object [("IL", .array [.object [("Value", .string "x")]]),
      ("us", .array [.object [("Value", .string "y")]])]), none, none⟩ :=
    hwritten.unique ⟨_, hread, rfl⟩
  have hdistinct : RuleTree.DistinctKeys written.partitions.length rules := by
    rw [hshape] at hrules ⊢
    cases hrules
    refine ⟨by decide +kernel, fun child _ => ?_⟩
    simp only [RuleTree.DistinctKeys]
  have hkeeps := hall hdistinct
  have hcount : _ = 2 := hkeeps.count.trans (by subst hshape; cases hrules; rfl)
  exact ⟨_, written, rules, hcompile, hwritten, hrules, hdistinct, hkeeps, hcount⟩

end Document

end Rulebook
