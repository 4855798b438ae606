import Rulebook.Numeral
import Rulebook.Proofs.Text.Plain

/-!
# Written numbers in lower case

A text that writes a number has signs, digits, points and the letters of `e`, `inf`,
`infinity` and `nan` alone, all of them plain, and writes the same number in the lower case
of ASCII.
-/

namespace Rulebook

open Text (IsPlain toNat_toLower)

namespace Text

theorem toLower_of_isDigit {c : Char} (h : c.isDigit = true) : c.toLower = c := by
  have hdigit : 48 ≤ c.toNat ∧ c.toNat ≤ 57 := Char.isDigit_iff_toNat.mp h
  rw [← Char.toNat_inj, toNat_toLower, if_neg (by omega)]

theorem isDigit_toLower (c : Char) : c.toLower.isDigit = c.isDigit := by
  refine Bool.eq_iff_iff.mpr ⟨fun h => ?_, fun h => by rwa [toLower_of_isDigit h]⟩
  have hdigit : 48 ≤ c.toLower.toNat ∧ c.toLower.toNat ≤ 57 := Char.isDigit_iff_toNat.mp h
  refine Char.isDigit_iff_toNat.mpr (show 48 ≤ c.toNat ∧ c.toNat ≤ 57 from ?_)
  rw [toNat_toLower] at hdigit
  split_ifs at hdigit <;> omega

theorem toLower_eq_iff {c mark : Char} (hmark : mark.toNat < 0x41) :
    c.toLower = mark ↔ c = mark := by
  rw [← Char.toNat_inj, ← Char.toNat_inj, toNat_toLower]
  split_ifs <;> omega

theorem plain_of_isDigit {c : Char} (h : c.isDigit = true) : IsPlain c.toLower := by
  have hdigit : 48 ≤ c.toNat ∧ c.toNat ≤ 57 := Char.isDigit_iff_toNat.mp h
  rw [toLower_of_isDigit h, IsPlain, plainRanges, List.cons_append, inRanges, if_neg (by omega),
    if_pos (by omega)]

end Text

open Text

namespace Numeral

/-- What is no sign stays behind no sign. -/
theorem splitSign_cons {c : Char} (hplus : c ≠ '+') (hminus : c ≠ '-') (rest : List Char) :
    splitSign (c :: rest) = (none, c :: rest) := by
  unfold splitSign
  split
  · next h => exact absurd (List.cons.inj h).1 hplus
  · next h => exact absurd (List.cons.inj h).1 hminus
  · rfl

/-- A sign stays a sign in lower case. -/
theorem splitSign_map (chars : List Char) :
    splitSign (chars.map Char.toLower) =
      ((splitSign chars).1, (splitSign chars).2.map Char.toLower) := by
  cases chars with
  | nil => rfl
  | cons c rest =>
    by_cases hplus : c = '+'
    · subst hplus
      rfl
    · by_cases hminus : c = '-'
      · subst hminus
        rfl
      · have hplusLower : c.toLower ≠ '+' := fun h => hplus ((toLower_eq_iff (by decide)).mp h)
        have hminusLower : c.toLower ≠ '-' := fun h => hminus ((toLower_eq_iff (by decide)).mp h)
        rw [List.map_cons, splitSign_cons hplus hminus, splitSign_cons hplusLower hminusLower,
          List.map_cons]

/-- Characters are plain if those behind their sign are. -/
theorem plain_of_splitSign {chars : List Char}
    (h : ∀ c ∈ (splitSign chars).2, IsPlain c.toLower) : ∀ c ∈ chars, IsPlain c.toLower := by
  unfold splitSign at h
  split at h
  · exact List.forall_mem_cons.mpr ⟨by decide, h⟩
  · exact List.forall_mem_cons.mpr ⟨by decide, h⟩
  · exact h

/-- Digits in front stay what they are in lower case. -/
theorem takeWhile_isDigit_map (chars : List Char) :
    (chars.map Char.toLower).takeWhile Char.isDigit = chars.takeWhile Char.isDigit := by
  induction chars with
  | nil => rfl
  | cons c rest ih =>
    rw [List.map_cons, List.takeWhile_cons, List.takeWhile_cons, isDigit_toLower, ih]
    split_ifs with hdigit
    · rw [toLower_of_isDigit hdigit]
    · rfl

/-- What is behind the digits in front is so in lower case. -/
theorem dropWhile_isDigit_map (chars : List Char) :
    (chars.map Char.toLower).dropWhile Char.isDigit =
      (chars.dropWhile Char.isDigit).map Char.toLower := by
  have hsame : Char.isDigit ∘ Char.toLower = Char.isDigit := funext isDigit_toLower
  rw [List.dropWhile_map, hsame]

theorem map_toLower_of_all_isDigit {chars : List Char} (h : chars.all Char.isDigit = true) :
    chars.map Char.toLower = chars := by
  refine (List.map_congr_left fun c hmem => ?_).trans (List.map_id chars)
  exact toLower_of_isDigit (List.all_eq_true.mp h c hmem)

/-- Characters are plain if those behind the digits in front are. -/
theorem plain_of_dropWhile {chars : List Char}
    (h : ∀ c ∈ chars.dropWhile Char.isDigit, IsPlain c.toLower) :
    ∀ c ∈ chars, IsPlain c.toLower := by
  induction chars with
  | nil => exact h
  | cons c rest ih =>
    rw [List.dropWhile_cons] at h
    split_ifs at h with hdigit
    · exact List.forall_mem_cons.mpr ⟨plain_of_isDigit hdigit, ih h⟩
    · exact h

/-- A power of ten needs digits behind its letter and sign, and nothing else. -/
theorem readExponent_cons (mark : Char) (rest : List Char) :
    readExponent (mark :: rest) =
      if mark = 'e' ∨ mark = 'E' then
        if (splitSign rest).2.isEmpty || !(splitSign rest).2.all Char.isDigit then none
        else some (some (if (splitSign rest).1 = some '-' then
          -(digitsValue (splitSign rest).2 : Int) else digitsValue (splitSign rest).2))
      else none := rfl

/-- The power of ten is the same in lower case. -/
theorem readExponent_map (chars : List Char) :
    readExponent (chars.map Char.toLower) = readExponent chars := by
  cases chars with
  | nil => rfl
  | cons mark rest =>
    have hmark : mark.toLower = 'e' ∨ mark.toLower = 'E' ↔ mark = 'e' ∨ mark = 'E' := by
      simp only [← Char.toNat_inj, toNat_toLower]
      change _ = 0x65 ∨ _ = 0x45 ↔ mark.toNat = 0x65 ∨ mark.toNat = 0x45
      split_ifs <;> omega
    have hall : ((splitSign rest).2.map Char.toLower).all Char.isDigit =
        (splitSign rest).2.all Char.isDigit := by
      rw [List.all_map]
      exact congrArg _ (funext isDigit_toLower)
    rw [List.map_cons, readExponent_cons, readExponent_cons, splitSign_map]
    simp only [hmark, List.isEmpty_map, hall]
    by_cases hdigits : (splitSign rest).2.all Char.isDigit = true
    · rw [map_toLower_of_all_isDigit hdigits]
    · simp [hdigits]

/-- A power of ten is written in plain characters. -/
theorem plain_of_readExponent {chars : List Char} {exponent : Option Int}
    (h : readExponent chars = some exponent) : ∀ c ∈ chars, IsPlain c.toLower := by
  cases chars with
  | nil => exact fun c hmem => absurd hmem List.not_mem_nil
  | cons mark rest =>
    rw [readExponent_cons] at h
    by_cases hmark : mark = 'e' ∨ mark = 'E'
    · rw [if_pos hmark] at h
      by_cases hdigits : (splitSign rest).2.all Char.isDigit = true
      · refine List.forall_mem_cons.mpr ⟨?_, plain_of_splitSign fun c hmem => ?_⟩
        · rcases hmark with rfl | rfl <;> decide
        · exact plain_of_isDigit (List.all_eq_true.mp hdigits c hmem)
      · rw [if_pos (by simp [hdigits])] at h
        cases h
    · rw [if_neg hmark] at h
      cases h

/-- A numeral is cut behind its sign and behind the digits in front, and has a fraction if a
point is next. -/
theorem ofChars?_eq (chars : List Char) :
    ofChars? chars =
      match (splitSign chars).2.dropWhile Char.isDigit with
      | '.' :: rest => (readExponent (rest.dropWhile Char.isDigit)).map fun exponent =>
          ⟨(splitSign chars).1, (splitSign chars).2.takeWhile Char.isDigit,
            some (rest.takeWhile Char.isDigit), exponent⟩
      | rest => (readExponent rest).map fun exponent =>
          ⟨(splitSign chars).1, (splitSign chars).2.takeWhile Char.isDigit, none, exponent⟩ := rfl

/-- A numeral has the same parts in lower case. -/
theorem ofChars?_map (chars : List Char) : ofChars? (chars.map Char.toLower) = ofChars? chars := by
  rw [ofChars?_eq, ofChars?_eq, splitSign_map]
  dsimp only
  rw [takeWhile_isDigit_map, dropWhile_isDigit_map]
  cases (splitSign chars).2.dropWhile Char.isDigit with
  | nil => rfl
  | cons c rest =>
    by_cases hpoint : c = '.'
    · subst hpoint
      have hlower : Char.toLower '.' = '.' := rfl
      rw [List.map_cons, hlower]
      simp only [dropWhile_isDigit_map, readExponent_map, takeWhile_isDigit_map]
    · have hlower : c.toLower ≠ '.' := fun h => hpoint ((toLower_eq_iff (by decide)).mp h)
      split
      · next h => exact absurd (List.cons.inj h).1 hlower
      · split
        · next h => exact absurd (List.cons.inj h).1 hpoint
        · rw [readExponent_map]

/-- A numeral is written in plain characters. -/
theorem plain_of_ofChars? {chars : List Char} {numeral : Numeral}
    (h : ofChars? chars = some numeral) : ∀ c ∈ chars, IsPlain c.toLower := by
  rw [ofChars?_eq] at h
  refine plain_of_splitSign (plain_of_dropWhile ?_)
  split at h
  · next rest hrest =>
    obtain ⟨exponent, hexponent, -⟩ := Option.map_eq_some_iff.mp h
    rw [hrest]
    exact List.forall_mem_cons.mpr
      ⟨by decide, plain_of_dropWhile (plain_of_readExponent hexponent)⟩
  · obtain ⟨exponent, hexponent, -⟩ := Option.map_eq_some_iff.mp h
    exact plain_of_readExponent hexponent

end Numeral

namespace Quantity

theorem ofWord?_map (chars : List Char) : ofWord? (chars.map Char.toLower) = ofWord? chars := by
  have hword : Char.toLower ∘ Char.toLower = Char.toLower := funext Char.toLower_toLower_eq_toLower
  simp only [ofWord?, Numeral.splitSign_map, List.map_map, hword]

/-- A word for a number is written in plain characters. -/
theorem plain_of_ofWord? {chars : List Char} {quantity : Quantity}
    (h : ofWord? chars = some quantity) : ∀ c ∈ chars, IsPlain c.toLower := by
  -- The word is one of three, all of whose letters are plain.
  have hword : ∀ c ∈ (Numeral.splitSign chars).2.map Char.toLower, IsPlain c := by
    unfold ofWord? at h
    dsimp only at h
    split_ifs at h with hinfinite hnan
    · rcases hinfinite with hinfinite | hinfinite
      · rw [hinfinite]
        exact plain_of_all rfl
      · rw [hinfinite]
        exact plain_of_all rfl
    · rw [hnan]
      exact plain_of_all rfl
  exact Numeral.plain_of_splitSign (List.forall_mem_map.mp hword)

theorem ofChars?_map (chars : List Char) : ofChars? (chars.map Char.toLower) = ofChars? chars := by
  rw [ofChars?, ofChars?, Numeral.ofChars?_map, ofWord?_map]

/-- A number is written in plain characters. -/
theorem plain_of_ofChars? {chars : List Char} {quantity : Quantity}
    (h : ofChars? chars = some quantity) : ∀ c ∈ chars, IsPlain c.toLower := by
  unfold ofChars? at h
  split at h
  · next hnumeral => exact Numeral.plain_of_ofChars? hnumeral
  · exact plain_of_ofWord? h

end Quantity

end Rulebook
