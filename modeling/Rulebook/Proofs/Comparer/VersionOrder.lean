import Mathlib.Data.List.TakeWhile
import Mathlib.Logic.Relation
import Rulebook.Proofs.Comparer.Version

/-!
# The order of versions

Versions are compared like their numbers from the left, a missing component being zero. So
they are ordered as lists of four numbers are, and neither blanks around a version nor zeros
that do not change its numbers make a difference.
-/

namespace Rulebook

/-- Blanks around a text do not change what is left when it is trimmed. -/
theorem Text.trimBlank_append {front back : List Char} (hfront : ∀ c ∈ front, isBlank c = true)
    (hback : ∀ c ∈ back, isBlank c = true) (chars : List Char) :
    trimBlank (front ++ chars ++ back) = trimBlank chars := by
  have hreverse : ∀ c ∈ back.reverse, isBlank c = true := fun c hmem =>
    hback c (List.mem_reverse.mp hmem)
  have hnone : back.dropWhile isBlank = [] := List.dropWhile_eq_nil_iff.mpr hback
  rw [trimBlank, trimBlank, List.append_assoc, List.dropWhile_append_of_pos hfront,
    List.dropWhile_append]
  split_ifs with hempty
  · rw [hnone, List.isEmpty_iff.mp hempty]
  · rw [List.reverse_append, List.dropWhile_append_of_pos hreverse]

namespace Version

/-- A text spells a version by its components: they stand between points, with blanks around
them all. -/
def Spells (text : String) (parts : List (List Char)) : Prop :=
  Text.trimBlank text.toList = ['.'].intercalate parts ∧
    1 ≤ parts.length ∧ parts.length ≤ 4 ∧ ∀ part ∈ parts, IsComponent part

instance (text : String) (parts : List (List Char)) : Decidable (Spells text parts) :=
  inferInstanceAs (Decidable (_ ∧ _))

/-- The four numbers of components, the missing ones being zero. -/
def numbers (parts : List (List Char)) : List Nat := (parts.map denoted).rightpad 4 0

/-- A zero is added to components that does not change their numbers: in front of a component,
or as one more component behind the last. -/
inductive ZeroAdded : List (List Char) → List (List Char) → Prop where
  /-- A component has one more leading zero. -/
  | leading (front : List (List Char)) (part : List Char) (back : List (List Char)) :
      ZeroAdded (front ++ part :: back) (front ++ ('0' :: part) :: back)
  /-- There is one more component zero at the end. -/
  | trailing (parts : List (List Char)) : ZeroAdded parts (parts ++ [['0']])

/-- A version is read as the numbers of its components. -/
theorem operand_of_spells {text : String} {parts : List (List Char)} (h : Spells text parts) :
    operand text = .ok (parts.map denoted) := by
  obtain ⟨htext, hpositive, hlength, hcomponents⟩ := h
  exact Except.mapError_eq_ok_iff.mpr
    (components_eq_ok_iff.mpr ⟨parts, htext, hpositive, hlength, hcomponents, rfl⟩)

/-- Padded numbers begin with the first number, or zero if there is none. -/
theorem rightpad_succ (n : Nat) (as : List Nat) :
    as.rightpad (n + 1) 0 = as.headD 0 :: as.tail.rightpad n 0 := by
  cases as with
  | nil => rfl
  | cons a as => simp [List.rightpad]

/-- No numbers are compared with others as zero with the first of them, and then on. -/
theorem order_nil (bs : List Nat) :
    order [] bs = (Ord.compare 0 (bs.headD 0)).then (order [] bs.tail) := by
  cases bs with
  | nil => rfl
  | cons b bs =>
    rw [List.headD_cons, List.tail_cons, order, order, List.all_cons]
    cases b with
    | zero => rfl
    | succ b => rfl

/-- Numbers are compared as the lists are that they make with zeros behind them. -/
theorem order_eq_compareLex {n : Nat} {as bs : List Nat} (has : as.length ≤ n)
    (hbs : bs.length ≤ n) :
    order as bs = List.compareLex Ord.compare (as.rightpad n 0) (bs.rightpad n 0) := by
  induction n generalizing as bs with
  | zero =>
    rw [List.eq_nil_of_length_eq_zero (Nat.le_zero.mp has),
      List.eq_nil_of_length_eq_zero (Nat.le_zero.mp hbs)]
    rfl
  | succ n ih =>
    have hstep : order as bs =
        (Ord.compare (as.headD 0) (bs.headD 0)).then (order as.tail bs.tail) := by
      cases as with
      | nil => exact order_nil bs
      | cons a as => rfl
    have htail : ∀ {cs : List Nat}, cs.length ≤ n + 1 → cs.tail.length ≤ n := by
      intro cs hcs
      rw [List.length_tail]
      omega
    rw [hstep, ih (htail has) (htail hbs), rightpad_succ, rightpad_succ,
      List.compareLex_cons_cons]

/-- Versions are compared by their numbers. -/
theorem compare_of_spells {left right : String} {as bs : List (List Char)}
    (hleft : Spells left as) (hright : Spells right bs) :
    comparer.compare left right = .ok (List.compareLex Ord.compare (numbers as) (numbers bs)) := by
  have has : (as.map denoted).length ≤ 4 := by
    rw [List.length_map]
    exact hleft.2.2.1
  have hbs : (bs.map denoted).length ≤ 4 := by
    rw [List.length_map]
    exact hright.2.2.1
  have hrun : comparer.compare left right =
      (operand left >>= fun a => operand right >>= fun b => pure (order a b)) := rfl
  rw [hrun, operand_of_spells hleft, operand_of_spells hright, Except.ok_bind, Except.ok_bind,
    order_eq_compareLex has hbs]
  rfl

/-- Only versions are compared, and only by their numbers. -/
theorem compare_eq_ok_iff {left right : String} {order : Ordering} :
    comparer.compare left right = .ok order ↔ ∃ as bs, Spells left as ∧ Spells right bs ∧
      List.compareLex Ord.compare (numbers as) (numbers bs) = order := by
  constructor
  · intro h
    obtain ⟨_, hleft, hrest⟩ := Except.bind_eq_ok_iff.mp h
    obtain ⟨_, hright, -⟩ := Except.bind_eq_ok_iff.mp hrest
    obtain ⟨as, has⟩ := exists_operand_iff.mp ⟨_, hleft⟩
    obtain ⟨bs, hbs⟩ := exists_operand_iff.mp ⟨_, hright⟩
    rw [compare_of_spells has hbs] at h
    exact ⟨as, bs, has, hbs, Except.ok.inj h⟩
  · rintro ⟨as, bs, has, hbs, rfl⟩
    exact compare_of_spells has hbs

/-- A left operand that is no version is refused. -/
theorem exists_error_of_left {left : String} (h : ¬ IsVersion left) (right : String) :
    ∃ error, comparer.compare left right = .error error ∧ error.operand = left := by
  cases hleft : operand left with
  | ok numbers => exact absurd (exists_operand_iff.mp ⟨numbers, hleft⟩) h
  | error error =>
    refine ⟨error, ?_, (operand_eq_error hleft).2.1⟩
    simp [comparer, hleft, bind, Except.bind]

/-- Behind a version a right operand that is none is refused. -/
theorem exists_error_of_right {left right : String} (hleft : IsVersion left)
    (hright : ¬ IsVersion right) :
    ∃ error, comparer.compare left right = .error error ∧ error.operand = right := by
  obtain ⟨numbers, hnumbers⟩ := exists_operand_iff.mpr hleft
  cases hother : operand right with
  | ok others => exact absurd (exists_operand_iff.mp ⟨others, hother⟩) hright
  | error error =>
    refine ⟨error, ?_, (operand_eq_error hother).2.1⟩
    simp [comparer, hnumbers, hother, bind, Except.bind]

/-- Numbers with the same entries at every place, the missing ones being zero, are the same
when they are padded. -/
theorem rightpad_eq_of_getD {n : Nat} {as bs : List Nat}
    (h : ∀ i, as.getD i 0 = bs.getD i 0) (has : as.length ≤ n) (hbs : bs.length ≤ n) :
    as.rightpad n 0 = bs.rightpad n 0 := by
  induction n generalizing as bs with
  | zero =>
    rw [List.eq_nil_of_length_eq_zero (Nat.le_zero.mp has),
      List.eq_nil_of_length_eq_zero (Nat.le_zero.mp hbs)]
  | succ n ih =>
    have hhead : ∀ cs : List Nat, cs.headD 0 = cs.getD 0 0 := fun cs => by cases cs <;> rfl
    have hnext : ∀ (cs : List Nat) i, cs.tail.getD i 0 = cs.getD (i + 1) 0 := fun cs i => by
      cases cs <;> rfl
    have htail : as.tail.rightpad n 0 = bs.tail.rightpad n 0 := by
      refine ih (fun i => ?_) (by rw [List.length_tail]; omega) (by rw [List.length_tail]; omega)
      rw [hnext, hnext, h]
    rw [rightpad_succ, rightpad_succ, hhead, hhead, h, htail]

/-- A zero behind numbers changes none of them. -/
theorem getD_append_zero (as : List Nat) (i : Nat) : (as ++ [0]).getD i 0 = as.getD i 0 := by
  induction as generalizing i with
  | nil => cases i <;> rfl
  | cons a as ih =>
    cases i with
    | zero => rfl
    | succ i => exact ih i

/-- Added zeros change no number. -/
theorem getD_of_zeroAdded {as bs : List (List Char)} (h : Relation.EqvGen ZeroAdded as bs)
    (i : Nat) : (as.map denoted).getD i 0 = (bs.map denoted).getD i 0 := by
  induction h with
  | rel as bs hadded =>
    cases hadded with
    | leading front part back =>
      rw [List.map_append, List.map_append, List.map_cons, List.map_cons, denoted_zero_cons]
    | trailing =>
      rw [List.map_append]
      exact (getD_append_zero _ i).symm
  | refl as => rfl
  | symm as bs _ ih => exact ih.symm
  | trans as bs cs _ _ ih ihRest => exact ih.trans ihRest

/-- Versions that differ in such zeros have the same numbers. -/
theorem numbers_of_zeroAdded {one other : String} {as bs : List (List Char)}
    (hone : Spells one as) (hother : Spells other bs) (h : Relation.EqvGen ZeroAdded as bs) :
    numbers as = numbers bs :=
  rightpad_eq_of_getD (getD_of_zeroAdded h) (by rw [List.length_map]; exact hone.2.2.1)
    (by rw [List.length_map]; exact hother.2.2.1)

/-- A text spells the same version with blanks around it. -/
theorem spells_append_iff {front back : List Char} (hfront : ∀ c ∈ front, Text.isBlank c = true)
    (hback : ∀ c ∈ back, Text.isBlank c = true) {text : String} {parts : List (List Char)} :
    Spells (String.ofList (front ++ text.toList ++ back)) parts ↔ Spells text parts := by
  rw [Spells, Spells, String.toList_ofList, Text.trimBlank_append hfront hback]

/-- A way to compare texts orders versions by their numbers, and knows nothing else. -/
structure OrdersVersions (compare : String → String → Except ComparisonError Ordering) :
    Prop where
  /-- Two texts are compared exactly if both are versions. -/
  accepts : ∀ left right,
    (∃ order, compare left right = .ok order) ↔ IsVersion left ∧ IsVersion right
  /-- Versions have the lexicographic order of their four numbers. -/
  numeric : ∀ left right as bs, Spells left as → Spells right bs →
    compare left right = .ok (List.compareLex Ord.compare (numbers as) (numbers bs))
  /-- A version is equal to itself. -/
  self : ∀ text, IsVersion text → compare text text = .ok .eq
  /-- The other way round the order is the reverse. -/
  swap : ∀ left right order, compare left right = .ok order →
    compare right left = .ok order.swap
  /-- The order is transitive. -/
  trans : ∀ first second third order next, compare first second = .ok order →
    compare second third = .ok next → order.isLE = true → next.isLE = true →
      ∃ last, compare first third = .ok last ∧ last.isLE = true
  /-- Leading zeros of components and trailing components zero make no difference. -/
  zeros : ∀ one other as bs, Spells one as → Spells other bs → Relation.EqvGen ZeroAdded as bs →
    compare one other = .ok .eq ∧ ∀ text, IsVersion text →
      compare one text = compare other text ∧ compare text one = compare text other
  /-- Nor do blanks around a version. -/
  blanks : ∀ front back, (∀ c ∈ front, Text.isBlank c = true) →
    (∀ c ∈ back, Text.isBlank c = true) → ∀ text other order,
      (compare (String.ofList (front ++ text.toList ++ back)) other = .ok order ↔
        compare text other = .ok order) ∧
      (compare other (String.ofList (front ++ text.toList ++ back)) = .ok order ↔
        compare other text = .ok order)
  /-- A left operand that is no version is refused as it is written. -/
  left : ∀ left right, ¬ IsVersion left →
    ∃ error, compare left right = .error error ∧ error.operand = left
  /-- Behind a version, so is a right operand that is none. -/
  right : ∀ left right, IsVersion left → ¬ IsVersion right →
    ∃ error, compare left right = .error error ∧ error.operand = right

/-- The comparer orders versions by their numbers. -/
theorem ordersVersions : OrdersVersions comparer.compare where
  accepts left right := by
    constructor
    · rintro ⟨order, h⟩
      obtain ⟨as, bs, has, hbs, -⟩ := compare_eq_ok_iff.mp h
      exact ⟨⟨as, has⟩, bs, hbs⟩
    · rintro ⟨⟨as, has⟩, bs, hbs⟩
      exact ⟨_, compare_of_spells has hbs⟩
  numeric left right as bs has hbs := compare_of_spells has hbs
  self text h := by
    obtain ⟨parts, hparts⟩ := h
    exact compare_eq_ok_iff.mpr ⟨parts, parts, hparts, hparts, Std.ReflCmp.compare_self⟩
  swap left right order h := by
    obtain ⟨as, bs, has, hbs, rfl⟩ := compare_eq_ok_iff.mp h
    exact compare_eq_ok_iff.mpr ⟨bs, as, hbs, has, Std.OrientedCmp.eq_swap⟩
  trans first second third order next h hnext hle hnextLE := by
    obtain ⟨as, bs, has, hbs, rfl⟩ := compare_eq_ok_iff.mp h
    obtain ⟨-, cs, -, hcs, -⟩ := compare_eq_ok_iff.mp hnext
    rw [compare_of_spells hbs hcs] at hnext
    cases hnext
    exact ⟨_, compare_of_spells has hcs, Std.TransCmp.isLE_trans hle hnextLE⟩
  zeros one other as bs has hbs hzeros := by
    have hsame := numbers_of_zeroAdded has hbs hzeros
    constructor
    · rw [compare_of_spells has hbs, hsame]
      exact congrArg Except.ok Std.ReflCmp.compare_self
    · rintro text ⟨cs, hcs⟩
      rw [compare_of_spells has hcs, compare_of_spells hbs hcs, compare_of_spells hcs has,
        compare_of_spells hcs hbs, hsame]
      exact ⟨rfl, rfl⟩
  blanks front back hfront hback text other order := by
    constructor <;> simp only [compare_eq_ok_iff, spells_append_iff hfront hback]
  left left right h := exists_error_of_left h right
  right left right hleft hright := exists_error_of_right hleft hright

/-- Components are numbers and not texts, with zeros and blanks that make no difference, and the
least number of more than 32 bits is none. -/
theorem ordersVersions_numbers :
    comparer.compare "1.10" "1.9" = .ok .gt ∧
      comparer.compare "\u00a001.9.0\n" "1.9" = .ok .eq ∧
      ∃ error, comparer.compare "4294967295" "0.4294967296" = .error error ∧
        error.operand = "0.4294967296" := by
  have hten : Spells "1.10" ["1".toList, "10".toList] := by decide
  have hnine : Spells "1.9" ["1".toList, "9".toList] := by decide
  have hzeros : Spells "\u00a001.9.0\n" ["01".toList, "9".toList, "0".toList] := by decide
  have hlarge : Spells "4294967295" ["4294967295".toList] := by decide
  have hnone : ¬ IsVersion "0.4294967296" := by
    rw [← exists_operand_iff]
    rintro ⟨numbers, hnumbers⟩
    have herror : operand "0.4294967296" =
        .error ⟨"version", "0.4294967296", Fault.tooLarge.message⟩ := by rfl
    rw [herror] at hnumbers
    cases hnumbers
  have hadded : Relation.EqvGen ZeroAdded ["01".toList, "9".toList, "0".toList]
      ["1".toList, "9".toList] :=
    .trans _ _ _ (.symm _ _ (.rel _ _ (.trailing ["01".toList, "9".toList])))
      (.symm _ _ (.rel _ _ (.leading [] "1".toList ["9".toList])))
  exact ⟨ordersVersions.numeric _ _ _ _ hten hnine,
    (ordersVersions.zeros _ _ _ _ hzeros hnine hadded).1,
    ordersVersions.right _ _ ⟨_, hlarge⟩ hnone⟩

end Version

end Rulebook
