import Rulebook.Comparer.Version
import Rulebook.Proofs.Evaluation.Alike

/-!
# Tests in another order

A conjunction or a disjunction is tried up to the first part that decides or fails, so in
another order it may meet other failures, or none. Nothing else depends on the order: a tree
of tests that gives a verdict gives the truth value of the tree, in which a failing leaf may
count as anything, and it fails only as one of its leaves does. Truth value and leaves are the
same for every order of the parts at every depth, of matchers and of conditions alike.
-/

namespace List

variable {α β : Type} {parts inner others : List α}

/-- If items that match one by one pass a test alike, all of them pass it in whatever order. -/
theorem Forall₂.all_eq_of_perm {test : α → Bool}
    (h : Forall₂ (fun part other => test part = test other) parts inner)
    (hperm : inner.Perm others) : parts.all test = others.all test := by
  refine Eq.trans ?_ hperm.all_eq
  clear hperm
  induction h with
  | nil => rfl
  | cons hfirst _ ih => rw [all_cons, all_cons, hfirst, ih]

/-- If items that match one by one pass a test alike, some of them pass it in whatever order. -/
theorem Forall₂.any_eq_of_perm {test : α → Bool}
    (h : Forall₂ (fun part other => test part = test other) parts inner)
    (hperm : inner.Perm others) : parts.any test = others.any test := by
  refine Eq.trans ?_ hperm.any_eq
  clear hperm
  induction h with
  | nil => rfl
  | cons hfirst _ ih => rw [any_cons, any_cons, hfirst, ih]

/-- If items that match one by one have the same members, all of them have the same members in
whatever order. -/
theorem Forall₂.perm_flatMap_of_perm {members : α → List β}
    (h : Forall₂ (fun part other => (members part).Perm (members other)) parts inner)
    (hperm : inner.Perm others) : (parts.flatMap members).Perm (others.flatMap members) := by
  refine Perm.trans ?_ (hperm.flatMap_right members)
  clear hperm
  induction h with
  | nil => exact .refl _
  | cons hfirst _ ih => exact hfirst.append ih

theorem Forall₂.imp_of_mem {R S : α → β → Prop} {rights : List β} (h : Forall₂ R parts rights)
    (hRS : ∀ part ∈ parts, ∀ other, R part other → S part other) : Forall₂ S parts rights :=
  ((forall₂_and_left parts rights).mpr ⟨hRS, h⟩).imp fun _ other hboth => hboth.1 other hboth.2

end List

namespace Rulebook

namespace Verdict

/-- The truth value of a verdict; a refused test counts as false. -/
def truth : Verdict → Bool
  | .ok held => held
  | .error _ => false

/-- A verdict rests on some tests: it is the given truth value unless it is refused, and then
it is refused as one of the tests is. -/
structure RestsOn (verdict : Verdict) (value : Bool) (tests : List Verdict) : Prop where
  /-- A verdict that is not refused is the truth value. -/
  eq_value : ∀ held, verdict = .ok held → held = value
  /-- A verdict is refused only as a test is. -/
  error_mem : ∀ error, verdict = .error error → .error error ∈ tests

theorem restsOn_self (verdict : Verdict) : RestsOn verdict verdict.truth [verdict] where
  eq_value held h := by rw [h, truth]
  error_mem error h := h ▸ List.mem_cons_self

theorem restsOn_ok (value : Bool) (tests : List Verdict) : RestsOn (.ok value) value tests where
  eq_value _ h := (Except.ok.inj h).symm
  error_mem _ h := nomatch h

/-- A verdict on tests none of which is refused is the truth value. -/
theorem RestsOn.eq_ok {verdict : Verdict} {value : Bool} {tests : List Verdict}
    (h : RestsOn verdict value tests) (hnone : ∀ test ∈ tests, ¬ Evaluation.Failed test) :
    verdict = .ok value := by
  cases hverdict : verdict with
  | error error => exact absurd ⟨error, rfl⟩ (hnone _ (h.error_mem error hverdict))
  | ok held => rw [h.eq_value held hverdict]

variable {first second : Verdict} {one other : Bool} {tests others : List Verdict}

/-- What follows a verdict rests on its tests and on those of what may follow. -/
theorem RestsOn.bind (hfirst : RestsOn first one tests) {next : Bool → Verdict}
    (value : Bool → Bool) (hnext : ∀ held, RestsOn (next held) (value held) others) :
    RestsOn (first >>= next) (value one) (tests ++ others) where
  eq_value held h := by
    obtain ⟨found, hfound, hheld⟩ := Except.bind_eq_ok_iff.mp h
    rw [← hfirst.eq_value found hfound]
    exact (hnext found).eq_value held hheld
  error_mem error h := by
    cases hfound : first with
    | error found =>
      rw [hfound] at h
      cases h
      exact List.mem_append_left others (hfirst.error_mem error hfound)
    | ok found =>
      rw [hfound] at h
      exact List.mem_append_right tests ((hnext found).error_mem error h)

/-- A conjunction rests on the tests of both parts, of which it may skip the second. -/
theorem RestsOn.and (hfirst : RestsOn first one tests) (hsecond : RestsOn second other others) :
    RestsOn (Verdict.and first second) (one && other) (tests ++ others) := by
  rw [and_eq_bind]
  refine hfirst.bind (· && other) fun held => ?_
  cases held with
  | true => exact hsecond
  | false => exact restsOn_ok false others

/-- A disjunction rests on the tests of both parts, of which it may skip the second. -/
theorem RestsOn.or (hfirst : RestsOn first one tests) (hsecond : RestsOn second other others) :
    RestsOn (Verdict.or first second) (one || other) (tests ++ others) := by
  rw [or_eq_bind]
  refine hfirst.bind (· || other) fun held => ?_
  cases held with
  | true => exact restsOn_ok true others
  | false => exact hsecond

theorem RestsOn.not (hfirst : RestsOn first one tests) :
    RestsOn (Verdict.not first) (!one) tests where
  eq_value held h := by
    obtain ⟨found, hfound, rfl⟩ := Except.map_eq_ok_iff.mp h
    rw [hfirst.eq_value found hfound]
  error_mem error h := hfirst.error_mem error (error_of_not h)

variable {α : Type} {parts : List α} {verdict : α → Verdict} {value : α → Bool}
  {testsOf : α → List Verdict}

/-- A conjunction of several parts rests on the tests of all of them. -/
theorem restsOn_all (h : ∀ part ∈ parts, RestsOn (verdict part) (value part) (testsOf part)) :
    RestsOn (all (parts.map verdict)) (parts.all value) (parts.flatMap testsOf) := by
  induction parts with
  | nil => exact restsOn_ok true []
  | cons part rest ih =>
    obtain ⟨hfirst, hrest⟩ := List.forall_mem_cons.mp h
    exact hfirst.and (ih hrest)

/-- A disjunction of several parts rests on the tests of all of them. -/
theorem restsOn_any (h : ∀ part ∈ parts, RestsOn (verdict part) (value part) (testsOf part)) :
    RestsOn (any (parts.map verdict)) (parts.any value) (parts.flatMap testsOf) := by
  induction parts with
  | nil => exact restsOn_ok false []
  | cons part rest ih =>
    obtain ⟨hfirst, hrest⟩ := List.forall_mem_cons.mp h
    exact hfirst.or (ih hrest)

end Verdict

namespace Condition

/-- A condition is not made of other conditions. -/
def IsLeaf : Condition → Prop
  | .all _ | .any _ | .not _ => False
  | _ => True

/-- What holds of leaves and passes from parts to wholes holds of every condition. -/
@[elab_as_elim]
theorem induct {motive : Condition → Prop} (leaf : ∀ condition, condition.IsLeaf → motive condition)
    (all : ∀ parts, (∀ part ∈ parts, motive part) → motive (.all parts))
    (any : ∀ parts, (∀ part ∈ parts, motive part) → motive (.any parts))
    (not : ∀ part, motive part → motive (.not part)) : ∀ condition, motive condition
  | .all parts => all parts fun part _ => induct leaf all any not part
  | .any parts => any parts fun part _ => induct leaf all any not part
  | .not part => not part (induct leaf all any not part)
  | .compares _ _ _ => leaf _ trivial
  | .among _ _ => leaf _ trivial
  | .contains _ => leaf _ trivial
  | .startsWith _ => leaf _ trivial
  | .endsWith _ => leaf _ trivial

mutual

/-- The leaves of a condition. -/
def leaves : Condition → List Condition
  | .all parts => leavesAll parts
  | .any parts => leavesAll parts
  | .not part => leaves part
  | leaf => [leaf]

/-- The leaves of the conditions of a list. -/
def leavesAll : List Condition → List Condition
  | [] => []
  | part :: rest => leaves part ++ leavesAll rest

end

mutual

/-- The truth value of a condition for a value: that of the leaves, combined without regard to
an order. -/
def truth (value : Json) : Condition → Bool
  | .all parts => allTrue value parts
  | .any parts => anyTrue value parts
  | .not part => !truth value part
  | leaf => Verdict.truth (holds value leaf)

/-- Whether all conditions of a list are true. -/
def allTrue (value : Json) : List Condition → Bool
  | [] => true
  | part :: rest => truth value part && allTrue value rest

/-- Whether some condition of a list is true. -/
def anyTrue (value : Json) : List Condition → Bool
  | [] => false
  | part :: rest => truth value part || anyTrue value rest

end

theorem leavesAll_eq (parts : List Condition) : leavesAll parts = parts.flatMap leaves := by
  induction parts with
  | nil => rw [leavesAll, List.flatMap_nil]
  | cons part rest ih => rw [leavesAll, ih, List.flatMap_cons]

theorem allTrue_eq (value : Json) (parts : List Condition) :
    allTrue value parts = parts.all (truth value) := by
  induction parts with
  | nil => rw [allTrue, List.all_nil]
  | cons part rest ih => rw [allTrue, ih, List.all_cons]

theorem anyTrue_eq (value : Json) (parts : List Condition) :
    anyTrue value parts = parts.any (truth value) := by
  induction parts with
  | nil => rw [anyTrue, List.any_nil]
  | cons part rest ih => rw [anyTrue, ih, List.any_cons]

/-- A leaf has itself as its only leaf. -/
theorem leaves_of_isLeaf {condition : Condition} (h : condition.IsLeaf) :
    condition.leaves = [condition] := by
  cases condition with
  | all _ | any _ | not _ => exact h.elim
  | compares _ _ _ | among _ _ | contains _ | startsWith _ | endsWith _ => rfl

/-- A leaf has the truth value of its verdict. -/
theorem truth_of_isLeaf {condition : Condition} (h : condition.IsLeaf) (value : Json) :
    condition.truth value = Verdict.truth (condition.holds value) := by
  cases condition with
  | all _ | any _ | not _ => exact h.elim
  | compares _ _ _ | among _ _ | contains _ | startsWith _ | endsWith _ => rfl

/-- What a condition says of a value rests on what its leaves say. -/
theorem restsOn_holds (value : Json) (condition : Condition) :
    Verdict.RestsOn (condition.holds value) (condition.truth value)
      (condition.leaves.map (holds value)) := by
  induction condition using induct with
  | leaf condition h =>
    rw [truth_of_isLeaf h, leaves_of_isLeaf h]
    exact Verdict.restsOn_self _
  | all parts ih =>
    rw [holds, allHold_eq, truth, allTrue_eq, leaves, leavesAll_eq, List.map_flatMap]
    exact Verdict.restsOn_all ih
  | any parts ih =>
    rw [holds, anyHold_eq, truth, anyTrue_eq, leaves, leavesAll_eq, List.map_flatMap]
    exact Verdict.restsOn_any ih
  | not part ih =>
    rw [holds, truth, leaves]
    exact ih.not

/-- A condition with the parts of some conjunctions and disjunctions in another order, at any
depth. -/
inductive Rearranged : Condition → Condition → Prop where
  /-- A leaf stays. -/
  | leaf {condition : Condition} (h : condition.IsLeaf) : Rearranged condition condition
  /-- The parts of a conjunction are rearranged and put in another order. -/
  | all {parts inner others : List Condition} (hparts : List.Forall₂ Rearranged parts inner)
      (hperm : inner.Perm others) : Rearranged (.all parts) (.all others)
  /-- The parts of a disjunction are rearranged and put in another order. -/
  | any {parts inner others : List Condition} (hparts : List.Forall₂ Rearranged parts inner)
      (hperm : inner.Perm others) : Rearranged (.any parts) (.any others)
  /-- The part of a negation is rearranged. -/
  | not {part other : Condition} (hpart : Rearranged part other) :
      Rearranged (.not part) (.not other)

/-- Two conditions are made of the same leaves and have the same truth value. -/
structure SameTests (one other : Condition) : Prop where
  /-- The leaves are the same, in whatever order. -/
  perm_leaves : one.leaves.Perm other.leaves
  /-- The truth value is the same for every value. -/
  truth_eq : ∀ value, one.truth value = other.truth value

/-- Conditions with the same tests one by one have the same tests in whatever order. -/
theorem sameTests_of_perm {parts inner others : List Condition}
    (h : List.Forall₂ SameTests parts inner) (hperm : inner.Perm others) :
    (leavesAll parts).Perm (leavesAll others) ∧
      (∀ value, allTrue value parts = allTrue value others) ∧
      ∀ value, anyTrue value parts = anyTrue value others := by
  refine ⟨?_, fun value => ?_, fun value => ?_⟩
  · rw [leavesAll_eq, leavesAll_eq]
    exact (h.imp fun _ _ hsame => hsame.perm_leaves).perm_flatMap_of_perm hperm
  · rw [allTrue_eq, allTrue_eq]
    exact (h.imp fun _ _ hsame => hsame.truth_eq value).all_eq_of_perm hperm
  · rw [anyTrue_eq, anyTrue_eq]
    exact (h.imp fun _ _ hsame => hsame.truth_eq value).any_eq_of_perm hperm

/-- A rearranged condition has the same leaves and the same truth value. -/
theorem Rearranged.sameTests {one other : Condition} (h : Rearranged one other) :
    SameTests one other := by
  induction one using induct generalizing other with
  | leaf one hleaf =>
    cases h with
    | leaf _ => exact ⟨.refl _, fun _ => rfl⟩
    | all _ _ | any _ _ | not _ => exact hleaf.elim
  | all parts ih =>
    cases h with
    | leaf hleaf => exact hleaf.elim
    | all hparts hperm =>
      obtain ⟨hleaves, hall, -⟩ :=
        sameTests_of_perm (hparts.imp_of_mem fun part hmem _ => ih part hmem) hperm
      exact ⟨hleaves, hall⟩
  | any parts ih =>
    cases h with
    | leaf hleaf => exact hleaf.elim
    | any hparts hperm =>
      obtain ⟨hleaves, -, hany⟩ :=
        sameTests_of_perm (hparts.imp_of_mem fun part hmem _ => ih part hmem) hperm
      exact ⟨hleaves, hany⟩
  | not part ih =>
    cases h with
    | leaf hleaf => exact hleaf.elim
    | not hpart =>
      have hsame := ih hpart
      refine ⟨?_, fun value => ?_⟩
      · rw [leaves, leaves]
        exact hsame.perm_leaves
      · rw [truth, truth, hsame.truth_eq value]

end Condition

namespace Matcher

/-- What holds of tests of a property and passes from parts to wholes holds of every
matcher. -/
@[elab_as_elim]
theorem induct {motive : Matcher → Prop}
    (property : ∀ name condition, motive (.property name condition))
    (all : ∀ parts, (∀ part ∈ parts, motive part) → motive (.all parts))
    (any : ∀ parts, (∀ part ∈ parts, motive part) → motive (.any parts))
    (not : ∀ part, motive part → motive (.not part)) : ∀ matcher, motive matcher
  | .property name condition => property name condition
  | .all parts => all parts fun part _ => induct property all any not part
  | .any parts => any parts fun part _ => induct property all any not part
  | .not part => not part (induct property all any not part)

mutual

/-- The leaves of the conditions of a matcher, each with the property that it tests. -/
def leaves : Matcher → List (String × Condition)
  | .all parts => leavesAll parts
  | .any parts => leavesAll parts
  | .not part => leaves part
  | .property name condition => condition.leaves.map (Prod.mk name)

/-- The leaves of the matchers of a list. -/
def leavesAll : List Matcher → List (String × Condition)
  | [] => []
  | part :: rest => leaves part ++ leavesAll rest

end

mutual

/-- The truth value of a matcher in a context: that of the leaves, combined without regard to
an order. -/
def truth (lookup : Lookup) : Matcher → Bool
  | .all parts => allTrue lookup parts
  | .any parts => anyTrue lookup parts
  | .not part => !truth lookup part
  | .property name condition => condition.truth ((lookup name).getD .null)

/-- Whether all matchers of a list are true. -/
def allTrue (lookup : Lookup) : List Matcher → Bool
  | [] => true
  | part :: rest => truth lookup part && allTrue lookup rest

/-- Whether some matcher of a list is true. -/
def anyTrue (lookup : Lookup) : List Matcher → Bool
  | [] => false
  | part :: rest => truth lookup part || anyTrue lookup rest

end

/-- What a leaf says of a context. -/
def leafVerdict (lookup : Lookup) (leaf : String × Condition) : Verdict :=
  leaf.2.holds ((lookup leaf.1).getD .null)

theorem leavesAll_eq (parts : List Matcher) : leavesAll parts = parts.flatMap leaves := by
  induction parts with
  | nil => rw [leavesAll, List.flatMap_nil]
  | cons part rest ih => rw [leavesAll, ih, List.flatMap_cons]

theorem allTrue_eq (lookup : Lookup) (parts : List Matcher) :
    allTrue lookup parts = parts.all (truth lookup) := by
  induction parts with
  | nil => rw [allTrue, List.all_nil]
  | cons part rest ih => rw [allTrue, ih, List.all_cons]

theorem anyTrue_eq (lookup : Lookup) (parts : List Matcher) :
    anyTrue lookup parts = parts.any (truth lookup) := by
  induction parts with
  | nil => rw [anyTrue, List.any_nil]
  | cons part rest ih => rw [anyTrue, ih, List.any_cons]

/-- What a matcher says of a context rests on what its leaves say. -/
theorem restsOn_eval (lookup : Lookup) (matcher : Matcher) :
    Verdict.RestsOn (matcher.eval lookup) (matcher.truth lookup)
      (matcher.leaves.map (leafVerdict lookup)) := by
  induction matcher using induct with
  | property name condition =>
    rw [eval_property, truth, leaves, List.map_map]
    exact condition.restsOn_holds ((lookup name).getD .null)
  | all parts ih =>
    rw [eval_all, truth, allTrue_eq, leaves, leavesAll_eq, List.map_flatMap]
    exact Verdict.restsOn_all ih
  | any parts ih =>
    rw [eval_any, truth, anyTrue_eq, leaves, leavesAll_eq, List.map_flatMap]
    exact Verdict.restsOn_any ih
  | not part ih =>
    rw [eval_not, truth, leaves]
    exact ih.not

/-- A matcher with the parts of some conjunctions and disjunctions in another order, at any
depth, also within the conditions of its properties. -/
inductive Rearranged : Matcher → Matcher → Prop where
  /-- The condition of a property is rearranged. -/
  | property {name : String} {condition other : Condition} (h : condition.Rearranged other) :
      Rearranged (.property name condition) (.property name other)
  /-- The parts of a conjunction are rearranged and put in another order. -/
  | all {parts inner others : List Matcher} (hparts : List.Forall₂ Rearranged parts inner)
      (hperm : inner.Perm others) : Rearranged (.all parts) (.all others)
  /-- The parts of a disjunction are rearranged and put in another order. -/
  | any {parts inner others : List Matcher} (hparts : List.Forall₂ Rearranged parts inner)
      (hperm : inner.Perm others) : Rearranged (.any parts) (.any others)
  /-- The part of a negation is rearranged. -/
  | not {part other : Matcher} (hpart : Rearranged part other) :
      Rearranged (.not part) (.not other)

/-- Two matchers are made of the same leaves and have the same truth value. -/
structure SameTests (one other : Matcher) : Prop where
  /-- The leaves are the same, in whatever order. -/
  perm_leaves : one.leaves.Perm other.leaves
  /-- The truth value is the same in every context. -/
  truth_eq : ∀ lookup, one.truth lookup = other.truth lookup

/-- Matchers with the same tests one by one have the same tests in whatever order. -/
theorem sameTests_of_perm {parts inner others : List Matcher}
    (h : List.Forall₂ SameTests parts inner) (hperm : inner.Perm others) :
    (leavesAll parts).Perm (leavesAll others) ∧
      (∀ lookup, allTrue lookup parts = allTrue lookup others) ∧
      ∀ lookup, anyTrue lookup parts = anyTrue lookup others := by
  refine ⟨?_, fun lookup => ?_, fun lookup => ?_⟩
  · rw [leavesAll_eq, leavesAll_eq]
    exact (h.imp fun _ _ hsame => hsame.perm_leaves).perm_flatMap_of_perm hperm
  · rw [allTrue_eq, allTrue_eq]
    exact (h.imp fun _ _ hsame => hsame.truth_eq lookup).all_eq_of_perm hperm
  · rw [anyTrue_eq, anyTrue_eq]
    exact (h.imp fun _ _ hsame => hsame.truth_eq lookup).any_eq_of_perm hperm

/-- A rearranged matcher has the same leaves and the same truth value. -/
theorem Rearranged.sameTests {one other : Matcher} (h : Rearranged one other) :
    SameTests one other := by
  induction one using induct generalizing other with
  | property name condition =>
    cases h with
    | property hcondition =>
      have hsame := hcondition.sameTests
      refine ⟨?_, fun lookup => ?_⟩
      · rw [leaves, leaves]
        exact hsame.perm_leaves.map (Prod.mk name)
      · rw [truth, truth, hsame.truth_eq]
  | all parts ih =>
    cases h with
    | all hparts hperm =>
      obtain ⟨hleaves, hall, -⟩ :=
        sameTests_of_perm (hparts.imp_of_mem fun part hmem _ => ih part hmem) hperm
      exact ⟨hleaves, hall⟩
  | any parts ih =>
    cases h with
    | any hparts hperm =>
      obtain ⟨hleaves, -, hany⟩ :=
        sameTests_of_perm (hparts.imp_of_mem fun part hmem _ => ih part hmem) hperm
      exact ⟨hleaves, hany⟩
  | not part ih =>
    cases h with
    | not hpart =>
      have hsame := ih hpart
      refine ⟨?_, fun lookup => ?_⟩
      · rw [leaves, leaves]
        exact hsame.perm_leaves
      · rw [truth, truth, hsame.truth_eq lookup]

/-- A matcher and the same matcher rearranged say the same of a context if neither fails. If no
leaf fails in it, both say what the truth value of the matcher is; and a failure of either is
that of a leaf. -/
theorem agree_of_rearranged {one other : Matcher} (h : Rearranged one other) (lookup : Lookup) :
    (∀ held found, one.eval lookup = .ok held → other.eval lookup = .ok found → held = found) ∧
    ((∀ leaf ∈ one.leaves, ¬ Evaluation.Failed (leafVerdict lookup leaf)) →
      one.eval lookup = .ok (one.truth lookup) ∧ other.eval lookup = .ok (one.truth lookup)) ∧
    ∀ error, one.eval lookup = .error error ∨ other.eval lookup = .error error →
      ∃ leaf ∈ one.leaves, leafVerdict lookup leaf = .error error := by
  have hsame := h.sameTests
  have hone := restsOn_eval lookup one
  have hother : Verdict.RestsOn (other.eval lookup) (one.truth lookup)
      (other.leaves.map (leafVerdict lookup)) := by
    rw [hsame.truth_eq lookup]
    exact restsOn_eval lookup other
  have htests := (hsame.perm_leaves.map (leafVerdict lookup)).symm
  refine ⟨fun held found hheld hfound => ?_, fun hnone => ?_, fun error herror => ?_⟩
  · exact (hone.eq_value held hheld).trans (hother.eq_value found hfound).symm
  · have hleaves : ∀ test ∈ one.leaves.map (leafVerdict lookup), ¬ Evaluation.Failed test :=
      List.forall_mem_map.mpr hnone
    exact ⟨hone.eq_ok hleaves,
      hother.eq_ok fun test hmem => hleaves test (htests.mem_iff.mp hmem)⟩
  · have hmem : Except.error error ∈ one.leaves.map (leafVerdict lookup) := by
      rcases herror with herror | herror
      · exact hone.error_mem error herror
      · exact htests.mem_iff.mp (hother.error_mem error herror)
    exact List.mem_map.mp hmem

/-- In one order of its tests a matcher fails, in another it holds; the failure is that of the
leaf with a comparer. -/
theorem agree_of_rearranged_beta :
    ∃ error,
      eval (fun _ => some (.string "beta"))
        (.all [.property "os" (.any [.compares .gt (.string "1") (some Version.comparer),
          .compares .eq (.string "beta") none]), .not (.any [])]) = .error error ∧
      eval (fun _ => some (.string "beta"))
        (.all [.not (.any []), .property "os" (.any [.compares .eq (.string "beta") none,
          .compares .gt (.string "1") (some Version.comparer)])]) = .ok true ∧
      ∃ leaf ∈ leaves (.all [.property "os"
          (.any [.compares .gt (.string "1") (some Version.comparer),
            .compares .eq (.string "beta") none]), .not (.any [])]),
        leafVerdict (fun _ => some (.string "beta")) leaf = .error error := by
  have hcondition : Condition.Rearranged
      (.any [.compares .gt (.string "1") (some Version.comparer),
        .compares .eq (.string "beta") none])
      (.any [.compares .eq (.string "beta") none,
        .compares .gt (.string "1") (some Version.comparer)]) :=
    .any (.cons (.leaf trivial) (.cons (.leaf trivial) .nil)) (.swap _ _ _)
  have hmatcher : Rearranged
      (.all [.property "os" (.any [.compares .gt (.string "1") (some Version.comparer),
        .compares .eq (.string "beta") none]), .not (.any [])])
      (.all [.not (.any []), .property "os" (.any [.compares .eq (.string "beta") none,
        .compares .gt (.string "1") (some Version.comparer)])]) :=
    .all (.cons (.property hcondition) (.cons (.not (.any .nil .nil)) .nil)) (.swap _ _ _)
  refine ⟨⟨"version", "beta", "components must be decimal digits"⟩, ?_, ?_, ?_⟩
  · rfl
  · rfl
  · exact (agree_of_rearranged hmatcher _).2.2 _ (Or.inl rfl)

end Matcher

end Rulebook
