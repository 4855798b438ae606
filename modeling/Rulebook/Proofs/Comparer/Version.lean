import Mathlib.Data.List.Induction
import Mathlib.Data.Nat.Digits.Defs
import Rulebook.Comparer.Version
import Rulebook.Proofs.Success

/-!
# Which texts are versions

A version is described here as a text and not as what reads it: one to four runs of
digits with points between them, and blanks around. What digits denote is the library's
`Nat.ofDigits`. The comparer reads exactly these texts, and of two operands it refuses the
first one that is no version.
-/

namespace Rulebook

/-- The texts between separators are those that the library finds. -/
theorem Text.splitAt_eq_splitOn (separator : Char) (chars : List Char) :
    splitAt separator chars = chars.splitOn separator := by
  induction chars with
  | nil => rfl
  | cons c rest ih =>
    rw [splitAt, ih, List.splitOn_cons_eq_if_modifyHead]
    cases hparts : rest.splitOn separator with
    | nil => exact absurd hparts (List.splitOn_ne_nil separator rest)
    | cons part parts =>
      by_cases hc : c = separator
      · simp only [hc, if_true, beq_self_eq_true]
      · simp only [hc, if_false, beq_eq_false_iff_ne.mpr hc, List.modifyHead_cons,
          Bool.false_eq_true]

namespace Version

/-- The number that decimal digits denote, the last one being the ones. The comparer does not
call this specification. -/
def denoted (digits : List Char) : Nat :=
  Nat.ofDigits 10 (digits.reverse.map fun c => c.toNat - '0'.toNat)

theorem denoted_append_singleton (digits : List Char) (c : Char) :
    denoted (digits ++ [c]) = (c.toNat - '0'.toNat) + 10 * denoted digits := by
  rw [denoted, List.reverse_append, List.reverse_singleton, List.singleton_append, List.map_cons,
    Nat.ofDigits_cons, denoted]

theorem denoted_zero_cons (digits : List Char) : denoted ('0' :: digits) = denoted digits := by
  rw [denoted, List.reverse_cons, List.map_append, List.map_singleton, Nat.sub_self,
    Nat.ofDigits_append_zero, denoted]

/-- Digits are read from the left to the number that they denote. -/
theorem digitsValue_eq_denoted (digits : List Char) : digitsValue digits = denoted digits := by
  -- The reader takes one digit after the other, so the last one is split off.
  induction digits using List.reverseRecOn with
  | nil => rfl
  | append_singleton digits c ih =>
    have hread : digitsValue (digits ++ [c]) = 10 * digitsValue digits + (c.toNat - 48) := by
      rw [digitsValue, List.foldl_append, List.foldl_cons, List.foldl_nil, digitsValue]
    rw [hread, denoted_append_singleton, ih, Nat.add_comm]
    rfl

/-- A component is a number of 32 bits, written in decimal digits. -/
structure IsComponent (digits : List Char) : Prop where
  /-- There is a digit. -/
  nonempty : digits ≠ []
  /-- There is nothing but digits. -/
  digit : ∀ c ∈ digits, c.isDigit = true
  /-- The number has 32 bits. -/
  bound : denoted digits ≤ 4294967295

instance (digits : List Char) : Decidable (IsComponent digits) :=
  decidable_of_iff
    (digits ≠ [] ∧ digits.all Char.isDigit = true ∧ denoted digits ≤ 4294967295)
    ⟨fun h => ⟨h.1, List.all_eq_true.mp h.2.1, h.2.2⟩,
      fun h => ⟨h.nonempty, List.all_eq_true.mpr h.digit, h.bound⟩⟩

/-- A version has one to four components with points between them. Blanks around it do
not count. -/
def IsVersion (text : String) : Prop :=
  ∃ parts, Text.trimBlank text.toList = ['.'].intercalate parts ∧
    1 ≤ parts.length ∧ parts.length ≤ 4 ∧ ∀ part ∈ parts, IsComponent part

theorem IsComponent.not_mem {digits : List Char} (h : IsComponent digits) : '.' ∉ digits := by
  intro hmem
  exact absurd (h.digit '.' hmem) (by decide)

/-- A component that is read is one, and is read as its number. -/
theorem component_eq_ok_iff {digits : List Char} {n : Nat} :
    component digits = .ok n ↔ IsComponent digits ∧ denoted digits = n := by
  have hsize : UInt32.size = 4294967296 := rfl
  unfold component
  rw [digitsValue_eq_denoted]
  constructor
  · intro h
    dsimp only at h
    split_ifs at h with hbad hbound
    simp only [Bool.or_eq_true, List.isEmpty_iff, Bool.not_eq_true', not_or,
      Bool.not_eq_false, List.all_eq_true] at hbad
    cases h
    exact ⟨⟨hbad.1, hbad.2, by omega⟩, rfl⟩
  · rintro ⟨hcomponent, rfl⟩
    have hall : digits.all Char.isDigit = true := List.all_eq_true.mpr hcomponent.digit
    have hempty : digits.isEmpty = false := by
      rw [← Bool.not_eq_true, List.isEmpty_iff]
      exact hcomponent.nonempty
    have hbound := hcomponent.bound
    rw [hall, hempty, if_neg (by decide), if_pos (by omega)]

/-- Components that are read are components, one for each number. -/
theorem isComponent_of_forall₂ {parts : List (List Char)} {numbers : List Nat}
    (h : List.Forall₂ (fun part n => component part = .ok n) parts numbers) :
    (∀ part ∈ parts, IsComponent part) ∧ numbers = parts.map denoted := by
  induction h with
  | nil => exact ⟨fun part hmem => absurd hmem List.not_mem_nil, rfl⟩
  | cons hfirst _ ih =>
    obtain ⟨hcomponent, rfl⟩ := component_eq_ok_iff.mp hfirst
    exact ⟨List.forall_mem_cons.mpr ⟨hcomponent, ih.1⟩, by rw [List.map_cons, ← ih.2]⟩

/-- The components of a text are read exactly if it is a version, one number for each
of them. -/
theorem components_eq_ok_iff {text : List Char} {numbers : List Nat} :
    components text = .ok numbers ↔
      ∃ parts, Text.trimBlank text = ['.'].intercalate parts ∧ 1 ≤ parts.length ∧
        parts.length ≤ 4 ∧ (∀ part ∈ parts, IsComponent part) ∧
        numbers = parts.map denoted := by
  unfold components
  rw [Text.splitAt_eq_splitOn]
  constructor
  · intro h
    obtain ⟨found, hfound, h⟩ := Except.bind_eq_ok_iff.mp h
    replace hfound := Except.mapM_eq_ok_iff.mp hfound
    have hlength := hfound.length_eq
    split_ifs at h with hlong
    cases h
    have hpositive := List.length_pos_of_ne_nil
      (List.splitOn_ne_nil '.' (Text.trimBlank text))
    obtain ⟨hcomponents, hnumbers⟩ := isComponent_of_forall₂ hfound
    exact ⟨_, (List.intercalate_splitOn '.').symm, hpositive, by omega, hcomponents, hnumbers⟩
  · rintro ⟨parts, htext, hpositive, hlength, hcomponents, rfl⟩
    have hsplit : (Text.trimBlank text).splitOn '.' = parts := by
      rw [htext]
      exact List.splitOn_intercalate '.' (fun part hmem => (hcomponents part hmem).not_mem)
        (List.ne_nil_of_length_pos hpositive)
    rw [hsplit]
    refine Except.bind_eq_ok_iff.mpr ⟨parts.map denoted, ?_, ?_⟩
    · rw [Except.mapM_eq_ok_iff, List.forall₂_map_right_iff, List.forall₂_same]
      exact fun part hmem => component_eq_ok_iff.mpr ⟨hcomponents part hmem, rfl⟩
    · rw [if_neg (by rw [List.length_map]; omega)]

/-- An operand is read exactly if it is a version. -/
theorem exists_operand_iff {text : String} :
    (∃ numbers, operand text = .ok numbers) ↔ IsVersion text := by
  unfold operand
  constructor
  · rintro ⟨numbers, h⟩
    obtain ⟨parts, htext, hpositive, hlength, hcomponents, -⟩ :=
      components_eq_ok_iff.mp (Except.mapError_eq_ok_iff.mp h)
    exact ⟨parts, htext, hpositive, hlength, hcomponents⟩
  · rintro ⟨parts, htext, hpositive, hlength, hcomponents⟩
    refine ⟨parts.map denoted, Except.mapError_eq_ok_iff.mpr ?_⟩
    exact components_eq_ok_iff.mpr ⟨parts, htext, hpositive, hlength, hcomponents, rfl⟩

/-- An operand that is refused is no version, and is reported whole. -/
theorem operand_eq_error {text : String} {error : ComparisonError}
    (h : operand text = .error error) :
    error.comparer = "version" ∧ error.operand = text ∧ ¬ IsVersion text := by
  have hversion : ¬ IsVersion text := by
    rw [← exists_operand_iff]
    rintro ⟨numbers, hnumbers⟩
    rw [h] at hnumbers
    cases hnumbers
  unfold operand at h
  cases hfault : components text.toList with
  | ok numbers =>
    rw [hfault] at h
    cases h
  | error fault =>
    rw [hfault] at h
    cases h
    exact ⟨rfl, rfl, hversion⟩

/-- A text that compares with itself is a version. -/
theorem isVersion_of_compare_self {text : String} {order : Ordering}
    (h : comparer.compare text text = .ok order) : IsVersion text := by
  obtain ⟨numbers, hnumbers, -⟩ := Except.bind_eq_ok_iff.mp h
  exact exists_operand_iff.mp ⟨numbers, hnumbers⟩

/-- With a version on the right, it is the left operand that is refused. -/
theorem error_of_compare {left right : String} {error : ComparisonError}
    (h : comparer.compare left right = .error error) (hright : IsVersion right) :
    error.comparer = "version" ∧ error.operand = left ∧ ¬ IsVersion left := by
  obtain ⟨numbers, hnumbers⟩ := exists_operand_iff.mpr hright
  cases hleft : operand left with
  | error found =>
    have hfound : found = error := by
      simpa [comparer, hleft, bind, Except.bind] using h
    rw [← hfound]
    exact operand_eq_error hleft
  | ok others =>
    have hok : comparer.compare left right = .ok (order others numbers) := by
      simp [comparer, hleft, hnumbers, bind, Except.bind, pure, Except.pure]
    rw [hok] at h
    cases h

end Version

end Rulebook
