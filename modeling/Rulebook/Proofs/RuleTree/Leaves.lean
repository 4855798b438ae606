import Rulebook.Document
import Rulebook.Proofs.Success

/-!
# The lists of rules of a written document

Below its partitions a document has lists of rules, each reached by one key for
every partition. Compiling goes through them all, so every rule of a compiled
tree was written in one of the lists.
-/

namespace Rulebook

namespace RuleTree

/-- A list of rules as it is written, with the keys that lead to it from the top. -/
structure Leaf where
  /-- The keys. -/
  path : List String
  /-- The list. -/
  written : Json

/-- A list below one more key. -/
def Leaf.below (key : String) (leaf : Leaf) : Leaf := ⟨key :: leaf.path, leaf.written⟩

/-- The fields of a partition, the ordinary keys before `*`. -/
def ordinaryFirst (children : List (String × Json)) : List (String × Json) :=
  children.filter (·.1 != wildcard) ++ children.filter (·.1 == wildcard)

/-- The lists of rules below as many partitions as `depth` says, in the order in
which a walk meets them that takes the ordinary keys of a partition before `*`. -/
def leaves : Nat → Json → List Leaf
  | 0, written => [⟨[], written⟩]
  | depth + 1, .object children =>
    (ordinaryFirst children).flatMap fun child =>
      (leaves depth child.2).map (Leaf.below child.1)
  | _ + 1, _ => []

/-- The order of the walk leaves no field out. -/
theorem mem_ordinaryFirst {children : List (String × Json)} {child : String × Json} :
    child ∈ ordinaryFirst children ↔ child ∈ children := by
  simp only [ordinaryFirst, List.mem_append, List.mem_filter]
  by_cases hkey : child.1 = wildcard
  · simp [hkey]
  · simp [hkey]

/-- The lists below a child are lists of the partition. -/
theorem mem_leaves_of_child {depth : Nat} {children : List (String × Json)}
    {child : String × Json} (hchild : child ∈ children) {leaf : Leaf}
    (hleaf : leaf ∈ leaves depth child.2) :
    leaf.below child.1 ∈ leaves (depth + 1) (.object children) := by
  refine List.mem_flatMap.mpr ⟨child, mem_ordinaryFirst.mpr hchild, ?_⟩
  exact List.mem_map.mpr ⟨leaf, hleaf, rfl⟩

/-- What is below the ordinary keys of a partition, put into `exact` one after the
other. -/
def exactOf (exact : Dict RuleTree) : List (String × RuleTree) → Dict RuleTree
  | [] => exact
  | child :: rest =>
    exactOf (if child.1 = wildcard then exact
      else Dict.insert (Text.lowerCase child.1) child.2 exact) rest

/-- What is below the last `*` of a partition. -/
def fallbackOf (fallback : Option RuleTree) : List (String × RuleTree) → Option RuleTree
  | [] => fallback
  | child :: rest => fallbackOf (if child.1 = wildcard then some child.2 else fallback) rest

/-- A compiled child stands under the key of the written one. -/
def Below (compileChild : Json → Except CompileError RuleTree) (written : String × Json)
    (compiled : String × RuleTree) : Prop :=
  compiled.1 = written.1 ∧ compileChild written.2 = .ok compiled.2

/-- A partition compiles when all its children do, and holds each under its key. -/
theorem compileChildren_eq_ok {compileChild : Json → Except CompileError RuleTree}
    {exact : Dict RuleTree} {fallback : Option RuleTree} {children : List (String × Json)}
    {tree : RuleTree} (h : compileChildren compileChild exact fallback children = .ok tree) :
    ∃ compiled, List.Forall₂ (Below compileChild) children compiled ∧
      tree = .branch (exactOf exact compiled) (fallbackOf fallback compiled) := by
  induction children generalizing exact fallback with
  | nil =>
    cases h
    exact ⟨[], .nil, rfl⟩
  | cons child rest ih =>
    obtain ⟨key, written⟩ := child
    obtain ⟨below, hbelow, h⟩ := Except.bind_eq_ok_iff.mp h
    have hrest : compileChildren compileChild (addChild key below exact fallback).1
        (addChild key below exact fallback).2 rest = .ok tree := h
    obtain ⟨compiled, hcompiled, htree⟩ := ih hrest
    refine ⟨(key, below) :: compiled, .cons ⟨rfl, hbelow⟩ hcompiled, htree.trans ?_⟩
    by_cases hkey : key = wildcard
    · simp only [addChild, exactOf, fallbackOf, if_pos hkey]
    · simp only [addChild, exactOf, fallbackOf, if_neg hkey]

/-- A partition compiles if all its children do, and holds each under its key. -/
theorem compileChildren_of_below {compileChild : Json → Except CompileError RuleTree}
    {children : List (String × Json)} {compiled : List (String × RuleTree)}
    (h : List.Forall₂ (Below compileChild) children compiled) (exact : Dict RuleTree)
    (fallback : Option RuleTree) :
    compileChildren compileChild exact fallback children =
      .ok (.branch (exactOf exact compiled) (fallbackOf fallback compiled)) := by
  induction h generalizing exact fallback with
  | nil => rfl
  | @cons child below rest others hchild _ ih =>
    obtain ⟨key, written⟩ := child
    obtain ⟨hkey, htree⟩ := hchild
    replace hkey : below.1 = key := hkey
    rw [compileChildren, htree, Except.ok_bind, exactOf, fallbackOf, hkey]
    by_cases hwild : key = wildcard
    · simp only [addChild, if_pos hwild, ih]
    · simp only [addChild, if_neg hwild, ih]

/-- Below a partition there are compiled children or an error. -/
theorem compile_succ_eq_ok {registry : Registry} {declared : Option ValueType} {depth : Nat}
    {written : Json} {tree : RuleTree}
    (h : compile registry declared (depth + 1) written = .ok tree) :
    ∃ children compiled, written = .object children ∧
      List.Forall₂ (Below (compile registry declared depth)) children compiled ∧
      tree = .branch (exactOf [] compiled) (fallbackOf none compiled) := by
  cases written with
  | object children =>
    obtain ⟨compiled, hcompiled, htree⟩ := compileChildren_eq_ok h
    exact ⟨children, compiled, rfl, hcompiled, htree⟩
  | null | bool _ | number _ | string _ | array _ => cases h

/-- What a partition holds under a key was put there, or was there before. -/
theorem mem_exactOf {exact : Dict RuleTree} {compiled : List (String × RuleTree)}
    {entry : String × RuleTree} (h : entry ∈ exactOf exact compiled) :
    entry ∈ exact ∨ ∃ child ∈ compiled, entry.2 = child.2 := by
  induction compiled generalizing exact with
  | nil => exact Or.inl h
  | cons child rest ih =>
    rcases ih h with hold | ⟨other, hmem, heq⟩
    · split_ifs at hold
      · exact Or.inl hold
      · rcases Dict.mem_insert hold with rfl | hold
        · exact Or.inr ⟨child, List.mem_cons_self, rfl⟩
        · exact Or.inl hold
    · exact Or.inr ⟨other, List.mem_cons_of_mem _ hmem, heq⟩

/-- What a partition holds under `*` was put there, or was there before. -/
theorem mem_fallbackOf {fallback : Option RuleTree} {compiled : List (String × RuleTree)}
    {below : RuleTree} (h : fallbackOf fallback compiled = some below) :
    fallback = some below ∨ ∃ child ∈ compiled, below = child.2 := by
  induction compiled generalizing fallback with
  | nil => exact Or.inl h
  | cons child rest ih =>
    rcases ih h with hold | ⟨other, hmem, heq⟩
    · split_ifs at hold
      · cases hold
        exact Or.inr ⟨child, List.mem_cons_self, rfl⟩
      · exact Or.inl hold
    · exact Or.inr ⟨other, List.mem_cons_of_mem _ hmem, heq⟩

/-- A rule is somewhere in a tree. -/
inductive HasRule (rule : Rule) : RuleTree → Prop where
  /-- It is in the list. -/
  | leaf {rules : List Rule} (hmem : rule ∈ rules) : HasRule rule (.leaf rules)
  /-- It is below a key. -/
  | exact {exact : List (String × RuleTree)} {fallback : Option RuleTree} {key : String}
      {below : RuleTree} (hmem : (key, below) ∈ exact) (hbelow : HasRule rule below) :
      HasRule rule (.branch exact fallback)
  /-- It is below `*`. -/
  | fallback {exact : List (String × RuleTree)} {below : RuleTree}
      (hbelow : HasRule rule below) : HasRule rule (.branch exact (some below))

/-- Every rule of a compiled tree was written in one of the lists, and the list
compiled with it. -/
theorem exists_leaf_of_hasRule {registry : Registry} {declared : Option ValueType} {rule : Rule}
    {depth : Nat} {written : Json} {tree : RuleTree}
    (hcompile : compile registry declared depth written = .ok tree) (hrule : HasRule rule tree) :
    ∃ leaf ∈ leaves depth written, ∃ rules,
      Rule.compileAll registry declared leaf.written = .ok rules ∧ rule ∈ rules := by
  induction depth generalizing written tree with
  | zero =>
    obtain ⟨rules, hrules, rfl⟩ := Except.map_eq_ok_iff.mp hcompile
    cases hrule with
    | leaf hmem => exact ⟨⟨[], written⟩, List.mem_singleton_self _, rules, hrules, hmem⟩
  | succ depth ih =>
    obtain ⟨children, compiled, rfl, hcompiled, rfl⟩ := compile_succ_eq_ok hcompile
    -- Below a key or below `*`, the rule is in the tree of a child.
    have hchild : ∃ child ∈ compiled, HasRule rule child.2 := by
      generalize htree : RuleTree.branch (exactOf [] compiled) (fallbackOf none compiled) = tree
        at hrule
      cases hrule with
      | leaf hmem => cases htree
      | exact hmem hbelow =>
        cases htree
        rcases mem_exactOf hmem with hold | ⟨child, hchild, heq⟩
        · exact absurd hold List.not_mem_nil
        · exact ⟨child, hchild, heq ▸ hbelow⟩
      | fallback hbelow =>
        injection htree with _ hfallback
        rcases mem_fallbackOf hfallback with hold | ⟨child, hchild, heq⟩
        · cases hold
        · exact ⟨child, hchild, heq ▸ hbelow⟩
    obtain ⟨child, hmem, hrule⟩ := hchild
    obtain ⟨source, hsource, -, hbelow⟩ := hcompiled.exists_left hmem
    obtain ⟨leaf, hleaf, rules, hrules, hin⟩ := ih hbelow hrule
    exact ⟨_, mem_leaves_of_child hsource hleaf, rules, hrules, hin⟩

/-- Every list of a tree that compiles does so itself. -/
theorem exists_rules_of_mem_leaves {registry : Registry} {declared : Option ValueType}
    {depth : Nat} {written : Json} {tree : RuleTree}
    (hcompile : compile registry declared depth written = .ok tree) {leaf : Leaf}
    (hleaf : leaf ∈ leaves depth written) :
    ∃ rules, Rule.compileAll registry declared leaf.written = .ok rules := by
  induction depth generalizing written tree leaf with
  | zero =>
    obtain ⟨rules, hrules, -⟩ := Except.map_eq_ok_iff.mp hcompile
    rw [List.mem_singleton.mp hleaf]
    exact ⟨rules, hrules⟩
  | succ depth ih =>
    obtain ⟨children, compiled, rfl, hcompiled, -⟩ := compile_succ_eq_ok hcompile
    obtain ⟨child, hchild, hleaf⟩ := List.mem_flatMap.mp hleaf
    obtain ⟨below, hbelow, rfl⟩ := List.mem_map.mp hleaf
    obtain ⟨source, -, -, hsource⟩ := hcompiled.exists_right (mem_ordinaryFirst.mp hchild)
    change ∃ rules, Rule.compileAll registry declared below.written = .ok rules
    exact ih hsource hbelow

end RuleTree

end Rulebook
