import Rulebook.Proofs.Document.Rules

/-!
# The depth of a tree

A tree that was compiled for some partitions has all its lists of rules below as many keys as
there are partitions, and nothing but partitions above them. A run takes one name for each
partition that it enters, so it has a name for every partition and none left at a list of rules.
What it would do otherwise makes no difference.
-/

namespace Rulebook

namespace RuleTree

/-- A tree stands somewhere in another one, below as many keys as its level says. -/
inductive LiesAt (part : RuleTree) : Nat → RuleTree → Prop where
  /-- It is the tree itself. -/
  | self : LiesAt part 0 part
  /-- It is below a key. -/
  | exact {level : Nat} {exact : List (String × RuleTree)} {fallback : Option RuleTree}
      {key : String} {below : RuleTree} (hmem : (key, below) ∈ exact)
      (hbelow : LiesAt part level below) : LiesAt part (level + 1) (.branch exact fallback)
  /-- It is below `*`. -/
  | fallback {level : Nat} {exact : List (String × RuleTree)} {below : RuleTree}
      (hbelow : LiesAt part level below) : LiesAt part (level + 1) (.branch exact (some below))

/-- A tree has its lists of rules below as many keys as its depth says, and partitions above
them. -/
inductive HasDepth : Nat → RuleTree → Prop where
  /-- A list of rules has no depth. -/
  | leaf (rules : List Rule) : HasDepth 0 (.leaf rules)
  /-- A partition is above trees of one depth. -/
  | branch {depth : Nat} {exact : List (String × RuleTree)} {fallback : Option RuleTree}
      (hexact : ∀ key below, (key, below) ∈ exact → HasDepth depth below)
      (hfallback : ∀ below, fallback = some below → HasDepth depth below) :
      HasDepth (depth + 1) (.branch exact fallback)

/-- What a run may do where the depth of the tree and the number of names differ. -/
structure Exits where
  /-- At a partition for which no name is left. -/
  exhausted : Evaluation (Option Json)
  /-- At a list of rules when names are left. -/
  unused : Evaluation (Option Json)

/-- What `next` gives for the rules below a key, if the key is there. -/
def nextBelow (next : RuleTree → Evaluation (Option Json)) :
    Option RuleTree → Evaluation (Option Json)
  | some below => next below
  | none => pure none

/-- What the rules of a partition give, if `next` tells what those below a key do. -/
def descend (lookup : Lookup) (partition : String) (next : RuleTree → Evaluation (Option Json))
    (exact : List (String × RuleTree)) (fallback : Option RuleTree) :
    Evaluation (Option Json) := do
  let found ← Evaluation.ask lookup partition
  let key := (found.bind Json.text?).map Text.lowerCase
  let hit ← nextBelow next (key.bind fun key => Dict.find? key exact)
  match hit with
  | some value => pure (some value)
  | none => nextBelow next fallback

/-- A run with other exits where the depth of the tree and the number of names differ. -/
def runWith (exits : Exits) (lookup : Lookup) (hasher : Hasher) :
    List String → RuleTree → Evaluation (Option Json)
  | [], .leaf rules => Rule.runFirst lookup hasher rules
  | _ :: _, .leaf _ => exits.unused
  | [], .branch _ _ => exits.exhausted
  | partition :: partitions, .branch exact fallback =>
    descend lookup partition (runWith exits lookup hasher partitions) exact fallback

/-- A run reaches a tree with some names left: it begins there, or it enters a partition, takes
its name, and goes on below the key that the context has or, if that gives nothing, below `*`. -/
inductive Reaches (lookup : Lookup) (hasher : Hasher) (names : List String) (part : RuleTree) :
    List String → RuleTree → Prop where
  /-- It begins there. -/
  | start : Reaches lookup hasher names part names part
  /-- It goes on below the key of the context. -/
  | exact {partition : String} {partitions : List String} {exact : List (String × RuleTree)}
      {fallback : Option RuleTree} {key : String} {below : RuleTree}
      (hkey : contextKey lookup partition = some key) (hfound : Dict.find? key exact = some below)
      (hbelow : Reaches lookup hasher names part partitions below) :
      Reaches lookup hasher names part (partition :: partitions) (.branch exact fallback)
  /-- It goes on below `*`. -/
  | fallback {partition : String} {partitions : List String} {exact : List (String × RuleTree)}
      {below : RuleTree}
      (hnothing : answerBelow lookup hasher partitions
        ((contextKey lookup partition).bind fun key => Dict.find? key exact) = .ok none)
      (hbelow : Reaches lookup hasher names part partitions below) :
      Reaches lookup hasher names part (partition :: partitions) (.branch exact (some below))

/-- A list of rules has no depth, and a partition has some. -/
theorem HasDepth.isLeaf_iff {depth : Nat} {tree : RuleTree} (h : HasDepth depth tree) :
    (∃ rules, tree = .leaf rules) ↔ depth = 0 := by
  cases h with
  | leaf rules => exact ⟨fun _ => rfl, fun _ => ⟨rules, rfl⟩⟩
  | branch _ _ =>
    constructor
    · rintro ⟨rules, hrules⟩
      cases hrules
    · intro hzero
      cases hzero

/-- What lies in a tree has the depth that is left at its level. -/
theorem HasDepth.of_liesAt {depth level : Nat} {part tree : RuleTree} (h : HasDepth depth tree)
    (hpart : LiesAt part level tree) : level ≤ depth ∧ HasDepth (depth - level) part := by
  induction hpart generalizing depth with
  | self => exact ⟨Nat.zero_le depth, h⟩
  | exact hmem _ ih =>
    cases h with
    | branch hexact _ =>
      obtain ⟨hle, hpart⟩ := ih (hexact _ _ hmem)
      rw [Nat.add_sub_add_right]
      exact ⟨Nat.succ_le_succ hle, hpart⟩
  | fallback _ ih =>
    cases h with
    | branch _ hfallback =>
      obtain ⟨hle, hpart⟩ := ih (hfallback _ rfl)
      rw [Nat.add_sub_add_right]
      exact ⟨Nat.succ_le_succ hle, hpart⟩

/-- A compiled tree has the depth that it was compiled for. -/
theorem hasDepth_of_compile {registry : Registry} {declared : Option ValueType} {depth : Nat}
    {written : Json} {tree : RuleTree} (h : compile registry declared depth written = .ok tree) :
    HasDepth depth tree := by
  induction depth generalizing written tree with
  | zero =>
    obtain ⟨rules, -, rfl⟩ := Except.map_eq_ok_iff.mp h
    exact .leaf rules
  | succ depth ih =>
    obtain ⟨children, compiled, rfl, hcompiled, rfl⟩ := compile_succ_eq_ok h
    have hchild : ∀ child ∈ compiled, HasDepth depth child.2 := by
      intro child hmem
      obtain ⟨source, -, -, hbelow⟩ := hcompiled.exists_left hmem
      exact ih hbelow
    refine .branch (fun key below hmem => ?_) fun below hbelow => ?_
    · rcases mem_exactOf hmem with hold | ⟨child, hin, heq⟩
      · exact absurd hold List.not_mem_nil
      · replace heq : below = child.2 := heq
        exact heq ▸ hchild child hin
    · rcases mem_fallbackOf hbelow with hold | ⟨child, hin, heq⟩
      · cases hold
      · exact heq ▸ hchild child hin

section

variable {lookup : Lookup} {hasher : Hasher}

/-- A run keeps the depth of what it has reached and the number of names left equal. -/
theorem Reaches.hasDepth {names left : List String} {part tree : RuleTree}
    (h : Reaches lookup hasher left part names tree) (hdepth : HasDepth names.length tree) :
    HasDepth left.length part := by
  induction h with
  | start => exact hdepth
  | exact _ hfound _ ih =>
    cases hdepth with
    | branch hexact _ => exact ih (hexact _ _ (Dict.mem_of_find? hfound))
  | fallback _ _ ih =>
    cases hdepth with
    | branch _ hfallback => exact ih (hfallback _ rfl)

/-- A run enters a partition and goes on with runs below its keys. -/
theorem run_eq_descend (partition : String) (partitions : List String)
    (exact : List (String × RuleTree)) (fallback : Option RuleTree) :
    run lookup hasher (partition :: partitions) (.branch exact fallback) =
      descend lookup partition (run lookup hasher partitions) exact fallback := by
  have hbelow : runBelow lookup hasher partitions = nextBelow (run lookup hasher partitions) := by
    funext below
    cases below <;> rfl
  rw [run_branch, hbelow]
  rfl

/-- What the rules below a key give depends on these rules alone. -/
theorem nextBelow_congr {next other : RuleTree → Evaluation (Option Json)}
    {found : Option RuleTree} (h : ∀ below, found = some below → next below = other below) :
    nextBelow next found = nextBelow other found := by
  cases found with
  | none => rfl
  | some below => exact h below rfl

/-- What the rules of a partition give depends on those below its keys alone. -/
theorem descend_congr {next other : RuleTree → Evaluation (Option Json)} {partition : String}
    {exact : List (String × RuleTree)} {fallback : Option RuleTree}
    (hexact : ∀ key below, (key, below) ∈ exact → next below = other below)
    (hfallback : ∀ below, fallback = some below → next below = other below) :
    descend lookup partition next exact fallback =
      descend lookup partition other exact fallback := by
  have hkeys : ∀ key : Option String,
      nextBelow next (key.bind fun key => Dict.find? key exact) =
        nextBelow other (key.bind fun key => Dict.find? key exact) := by
    intro key
    refine nextBelow_congr fun below hbelow => ?_
    obtain ⟨name, -, hfound⟩ := Option.bind_eq_some_iff.mp hbelow
    exact hexact name below (Dict.mem_of_find? hfound)
  simp only [descend, hkeys, nextBelow_congr hfallback]

/-- A run with as many names as the tree is deep never takes another exit. -/
theorem runWith_eq_run (exits : Exits) {names : List String} {tree : RuleTree}
    (h : HasDepth names.length tree) :
    runWith exits lookup hasher names tree = run lookup hasher names tree := by
  induction names generalizing tree with
  | nil =>
    cases h with
    | leaf rules => rw [runWith, run]
  | cons partition partitions ih =>
    cases h with
    | branch hexact hfallback =>
      rw [runWith, run_eq_descend]
      exact descend_congr (fun key below hmem => ih (hexact key below hmem))
        fun below hbelow => ih (hfallback below hbelow)

end

end RuleTree

namespace Document

/-- A compiled document has as many partitions as its rules are deep. -/
theorem hasDepth_of_compile {registry : Registry} {text : String} {document : Document}
    (h : compile registry text = .ok document) :
    document.rules.HasDepth document.partitions.length := by
  obtain ⟨written, -, hfrom⟩ := exists_written_of_compile h
  obtain ⟨rules, -, htree⟩ := hfrom.rules
  rw [hfrom.partitions]
  exact RuleTree.hasDepth_of_compile htree

/-- The rules of a document are as deep as it has partitions. In a tree that compiles, lists of
rules lie exactly at the depth that it is compiled for, and partitions above it. So a run of a
document has a name for every partition that it reaches, and none left at a list of rules: what
it would do otherwise can be changed without changing a run. -/
theorem depth_eq_partitions (registry : Registry) :
    (∀ declared depth written tree,
      RuleTree.compile registry declared depth written = .ok tree →
        ∀ part level, RuleTree.LiesAt part level tree →
          level ≤ depth ∧ ((∃ rules, part = .leaf rules) ↔ level = depth)) ∧
    ∀ text document, compile registry text = .ok document → ∀ lookup hasher,
      (∀ left part,
        RuleTree.Reaches lookup hasher left part document.partitions document.rules →
          (left = [] ↔ ∃ rules, part = .leaf rules)) ∧
      ∀ exits, document.rules.runWith exits lookup hasher document.partitions =
        document.rules.run lookup hasher document.partitions := by
  refine ⟨fun declared depth written tree htree part level hpart => ?_,
    fun text document hdocument lookup hasher => ⟨fun left part hreaches => ?_, fun exits => ?_⟩⟩
  · obtain ⟨hle, hdepth⟩ := (RuleTree.hasDepth_of_compile htree).of_liesAt hpart
    refine ⟨hle, ?_⟩
    rw [hdepth.isLeaf_iff]
    omega
  · have hdepth := hreaches.hasDepth (hasDepth_of_compile hdocument)
    rw [hdepth.isLeaf_iff, List.length_eq_zero_iff]
  · exact RuleTree.runWith_eq_run exits (hasDepth_of_compile hdocument)

/-- Two partitions, with a list of rules below one key of the second and a partition without
keys. -/
theorem depth_eq_partitions_two :
    ∃ document, compile .empty
        r#"{"partitions":["a","b"],"rules":{"*":{"x":[{"Value":1}]},"y":{}}}"# = .ok document ∧
      (∀ part level, RuleTree.LiesAt part level document.rules →
        level ≤ 2 ∧ ((∃ rules, part = .leaf rules) ↔ level = 2)) ∧
      ∀ lookup hasher,
        (∀ left part,
          RuleTree.Reaches lookup hasher left part document.partitions document.rules →
            (left = [] ↔ ∃ rules, part = .leaf rules)) ∧
        ∀ exits, document.rules.runWith exits lookup hasher document.partitions =
          document.rules.run lookup hasher document.partitions := by
  have hread : Json.read?
      r#"{"partitions":["a","b"],"rules":{"*":{"x":[{"Value":1}]},"y":{}}}"# =
      some (.object [("partitions", .array [.string "a", .string "b"]),
        ("rules", .object [("*", .object [("x", .array [.object
          [("Value", .number (.natural 1))]])]), ("y", .object [])])]) := by rfl
  have hcompile := (compile_of_read? .empty hread).trans rfl
  have htree : RuleTree.compile .empty none 2 (.object [("*", .object [("x", .array [.object
      [("Value", .number (.natural 1))]])]), ("y", .object [])]) = .ok _ := rfl
  obtain ⟨htrees, hdocuments⟩ := depth_eq_partitions .empty
  exact ⟨_, hcompile, htrees none 2 _ _ htree, hdocuments _ _ hcompile⟩

end Document

end Rulebook
