import Rulebook.Proofs.Document.Rules

/-!
# Trees that match

Two documents may have the same partitions with rules that differ in some way, or be one
document that is compiled in two ways. If the lists of rules that correspond compile one
with the other and answer alike, so do the trees.
-/

namespace Rulebook

namespace Dict

variable {α β : Type} {R : α → β → Prop}

/-- Two entries have the same key and values in a relation. -/
def Match (R : α → β → Prop) (one : String × α) (other : String × β) : Prop :=
  one.1 = other.1 ∧ R one.2 other.2

/-- Dictionaries that match do so after a write of values that match. -/
theorem forall₂_insert {one : Dict α} {other : Dict β} (h : List.Forall₂ (Match R) one other)
    {value : α} {written : β} (hvalue : R value written) (key : String) :
    List.Forall₂ (Match R) (insert key value one) (insert key written other) := by
  induction h with
  | nil => exact .cons ⟨rfl, hvalue⟩ .nil
  | @cons first second rest others hfirst hrest ih =>
    obtain ⟨k, old⟩ := first
    obtain ⟨k', stored⟩ := second
    obtain ⟨rfl, hold⟩ := hfirst
    unfold insert
    split_ifs
    · exact .cons ⟨rfl, hvalue⟩ hrest
    · exact .cons ⟨rfl, hvalue⟩ (.cons ⟨rfl, hold⟩ hrest)
    · exact .cons ⟨rfl, hold⟩ ih

/-- Dictionaries that match have values that match under a key, or neither has one. -/
theorem rel_find? {one : Dict α} {other : Dict β} (h : List.Forall₂ (Match R) one other)
    (key : String) : Option.Rel R (find? key one) (find? key other) := by
  induction h with
  | nil => exact .none
  | @cons first second rest others hfirst hrest ih =>
    obtain ⟨k, old⟩ := first
    obtain ⟨k', stored⟩ := second
    obtain ⟨rfl, hold⟩ := hfirst
    unfold find?
    split_ifs
    · exact .some hold
    · exact ih

end Dict

/-- A way in which answers can be alike: two parts without a value are, and of parts that
are alike the first ones with a value, or the last ones, are. -/
structure Answer.Congruence (alike : Answer → Answer → Prop) : Prop where
  /-- No value is alike to no value. -/
  none : alike (.ok none) (.ok none)
  /-- Parts that are alike leave the same open. -/
  orElse {first second other last : Answer} (hfirst : alike first other)
    (hsecond : alike second last) : alike (first.orElse second) (other.orElse last)

variable {alike : Answer → Answer → Prop} {registry : Registry}
  {declared redeclared : Option ValueType} {lookup : Lookup} (hasher : Hasher)

/-- Lists of items compile one with the other and answer alike if their rules do. -/
theorem Rule.exists_compileAll_of_relates (halike : Answer.Congruence alike)
    {relates : Json → Json → Prop}
    (hrule : ∀ item other, relates item other → ∀ written, WrittenRule.read item = .ok written →
      ∀ rule, compile registry declared written = .ok rule →
      ∃ rewritten renewed, WrittenRule.read other = .ok rewritten ∧
        compile registry redeclared rewritten = .ok renewed ∧
        alike (rule.run lookup hasher).result (renewed.run lookup hasher).result)
    {items others : List Json} (h : List.Forall₂ relates items others) {rules : List Rule}
    (hcompile : compileAll registry declared (.array items) = .ok rules) :
    ∃ renewed, compileAll registry redeclared (.array others) = .ok renewed ∧
      alike (runFirst lookup hasher rules).result (runFirst lookup hasher renewed).result := by
  simp only [compileAll_eq_ok_iff] at hcompile ⊢
  induction h generalizing rules with
  | nil =>
    cases hcompile
    exact ⟨[], .nil, halike.none⟩
  | cons hitem _ ih =>
    cases hcompile with
    | cons hfirst hrest =>
      obtain ⟨written, hwritten, hcompiled⟩ := hfirst
      obtain ⟨rewritten, renewed, hread, hrenewed, hsame⟩ :=
        hrule _ _ hitem written hwritten _ hcompiled
      obtain ⟨tail, htail, htailAlike⟩ := ih hrest
      refine ⟨renewed :: tail, .cons ⟨rewritten, hread, hrenewed⟩ htail, ?_⟩
      rw [result_runFirst_cons, result_runFirst_cons]
      exact halike.orElse hsame htailAlike

namespace RuleTree

variable {R : RuleTree → RuleTree → Prop}

/-- Children that match are put under the same keys. -/
theorem forall₂_exactOf {compiled others : List (String × RuleTree)}
    (h : List.Forall₂ (Dict.Match R) compiled others) {exact renamed : Dict RuleTree}
    (hexact : List.Forall₂ (Dict.Match R) exact renamed) :
    List.Forall₂ (Dict.Match R) (exactOf exact compiled) (exactOf renamed others) := by
  induction h generalizing exact renamed with
  | nil => exact hexact
  | cons hchild _ ih =>
    obtain ⟨hkey, hbelow⟩ := hchild
    rw [exactOf, exactOf, ← hkey]
    refine ih ?_
    split_ifs
    · exact hexact
    · exact Dict.forall₂_insert hexact hbelow _

/-- Of children that match the same one is kept under `*`. -/
theorem rel_fallbackOf {compiled others : List (String × RuleTree)}
    (h : List.Forall₂ (Dict.Match R) compiled others) {fallback renamed : Option RuleTree}
    (hfallback : Option.Rel R fallback renamed) :
    Option.Rel R (fallbackOf fallback compiled) (fallbackOf renamed others) := by
  induction h generalizing fallback renamed with
  | nil => exact hfallback
  | cons hchild _ ih =>
    obtain ⟨hkey, hbelow⟩ := hchild
    rw [fallbackOf, fallbackOf, ← hkey]
    refine ih ?_
    split_ifs
    · exact .some hbelow
    · exact hfallback

/-- Trees below a key answer alike if they are alike or there are none. -/
theorem alike_answerBelow (halike : Answer.Congruence alike) {partitions others : List String}
    {below other : Option RuleTree}
    (h : Option.Rel (fun one two => alike (run lookup hasher partitions one).result
      (run lookup hasher others two).result) below other) :
    alike (answerBelow lookup hasher partitions below)
      (answerBelow lookup hasher others other) := by
  cases h with
  | some hsame => exact hsame
  | none => exact halike.none

/-- Children that match compile if their matches do, and what they compile to matches. -/
theorem exists_below_of_match {relates : Json → Json → Prop}
    {compileChild compileOther : Json → Except CompileError RuleTree}
    {children others : List (String × Json)} (h : List.Forall₂ (Dict.Match relates) children others)
    {compiled : List (String × RuleTree)}
    (hcompiled : List.Forall₂ (Below compileChild) children compiled)
    (hbelow : ∀ written other, relates written other → ∀ tree, compileChild written = .ok tree →
      ∃ renamed, compileOther other = .ok renamed ∧ R tree renamed) :
    ∃ renamed, List.Forall₂ (Below compileOther) others renamed ∧
      List.Forall₂ (Dict.Match R) compiled renamed := by
  induction h generalizing compiled with
  | nil =>
    cases hcompiled
    exact ⟨[], .nil, .nil⟩
  | @cons child other _ _ hchild _ ih =>
    cases hcompiled with
    | @cons _ below _ _ hfirst hrest =>
      obtain ⟨hsame, hrelates⟩ := hchild
      obtain ⟨hkey, htree⟩ := hfirst
      obtain ⟨tree, hrenamed, hR⟩ := hbelow _ _ hrelates _ htree
      obtain ⟨rest, hothers, hmatch⟩ := ih hrest
      exact ⟨(other.1, tree) :: rest, .cons ⟨rfl, hrenamed⟩ hothers,
        .cons ⟨hkey.trans hsame, hR⟩ hmatch⟩

/-- A tree compiles if one does that it is related to down all partitions, and answers alike
where the lists of rules below do. -/
theorem exists_compile_of_relates (halike : Answer.Congruence alike)
    {relates : Nat → Json → Json → Prop}
    (hleaf : ∀ written other, relates 0 written other → ∀ rules,
      Rule.compileAll registry declared written = .ok rules →
      ∃ renewed, Rule.compileAll registry redeclared other = .ok renewed ∧
        alike (Rule.runFirst lookup hasher rules).result
          (Rule.runFirst lookup hasher renewed).result)
    (hbranch : ∀ depth children other, relates (depth + 1) (.object children) other →
      ∃ others, other = .object others ∧
        List.Forall₂ (Dict.Match (relates depth)) children others)
    {partitions others : List String}
    (hpartitions : List.Forall₂ (fun partition other =>
      contextKey lookup other = contextKey lookup partition) partitions others)
    {written other : Json} (h : relates partitions.length written other) {tree : RuleTree}
    (hcompile : compile registry declared partitions.length written = .ok tree) :
    ∃ renewed, compile registry redeclared others.length other = .ok renewed ∧
      alike (run lookup hasher partitions tree).result
        (run lookup hasher others renewed).result := by
  -- The induction goes down the partitions; below each of them both trees have the same
  -- keys, with trees that are alike.
  induction hpartitions generalizing written other tree with
  | nil =>
    obtain ⟨rules, hrules, rfl⟩ := Except.map_eq_ok_iff.mp hcompile
    obtain ⟨renewed, hrenewed, hsame⟩ := hleaf written other h rules hrules
    refine ⟨.leaf renewed, Except.map_eq_ok_iff.mpr ⟨renewed, hrenewed, rfl⟩, ?_⟩
    rw [run, run]
    exact hsame
  | @cons partition first partitions others hpartition _ ih =>
    obtain ⟨children, compiled, rfl, hcompiled, rfl⟩ := compile_succ_eq_ok hcompile
    obtain ⟨renamed, rfl, hchildren⟩ := hbranch _ children other h
    obtain ⟨others', hothers, hmatch⟩ := exists_below_of_match hchildren hcompiled
      fun written other hbelow tree htree => ih hbelow htree
    refine ⟨_, compileChildren_of_below hothers [] none, ?_⟩
    rw [result_run_branch, result_run_branch, hpartition]
    refine halike.orElse (alike_answerBelow hasher halike ?_)
      (alike_answerBelow hasher halike (rel_fallbackOf hmatch .none))
    have hexact := forall₂_exactOf hmatch .nil
    cases contextKey lookup partition with
    | none => exact .none
    | some key => exact Dict.rel_find? hexact key

end RuleTree

end Rulebook
