import Mathlib
import Rulebook.Text.Blank
import Rulebook.Text.LowerCase

/-!
# Plain characters

Numbers and truth values are written in ASCII, between blanks, and are read whatever the
case of their ASCII letters, while texts are compared in the lower case of all scripts. On
plain characters both agree: each of them is the lower-case form of itself and of an ASCII
capital alone. The letter K is not plain, because the Kelvin sign becomes one.
-/

namespace Rulebook.Text

/-- What lies in some ranges lies in one of them. -/
theorem exists_of_inRanges {ranges : List (Nat × Nat)} {code : Nat}
    (h : inRanges ranges code = true) : ∃ range ∈ ranges, range.1 ≤ code ∧ code ≤ range.2 := by
  induction ranges with
  | nil => cases h
  | cons range rest ih =>
    unfold inRanges at h
    split_ifs at h with hfirst hlast
    · exact ⟨range, List.mem_cons_self, Nat.le_of_not_lt hfirst, hlast⟩
    · obtain ⟨other, hmem, hother⟩ := ih h
      exact ⟨other, List.mem_cons_of_mem _ hmem, hother⟩

/-- What lies in one of increasing ranges lies in them. -/
theorem inRanges_of_mem {ranges : List (Nat × Nat)}
    (hordered : ranges.Pairwise fun one other => one.1 < other.1 ∧ one.2 < other.1)
    {range : Nat × Nat} (hmem : range ∈ ranges) {code : Nat} (hfirst : range.1 ≤ code)
    (hlast : code ≤ range.2) : inRanges ranges code = true := by
  induction ranges with
  | nil => exact absurd hmem List.not_mem_nil
  | cons first rest ih =>
    obtain ⟨hbefore, hrest⟩ := List.pairwise_cons.mp hordered
    unfold inRanges
    rcases List.mem_cons.mp hmem with rfl | hmem
    · rw [if_neg (by omega), if_pos hlast]
    · have := hbefore range hmem
      split_ifs
      · omega
      · rfl
      · exact ih hrest hmem

/-- ASCII except K, and the blanks beyond it. -/
def plainRanges : List (Nat × Nat) := [(0x9, 0x6A), (0x6C, 0x7F)] ++ blankRanges.drop 2

/-- A character is plain. -/
def IsPlain (c : Char) : Prop := inRanges plainRanges c.toNat = true

instance (c : Char) : Decidable (IsPlain c) := inferInstanceAs (Decidable (_ = true))

theorem plain_of_all {chars : List Char} (h : chars.all (fun c => decide (IsPlain c)) = true) :
    ∀ c ∈ chars, IsPlain c :=
  fun c hmem => of_decide_eq_true (List.all_eq_true.mp h c hmem)

/-- The characters of a row and their lower-case forms are all apart from some ranges. -/
def LowerRow.Apart (ranges : List (Nat × Nat)) (row : LowerRow) : Prop :=
  ∀ range ∈ ranges, (range.2 < row.first ∨ row.last < range.1) ∧
    (range.2 < row.image ∨ row.image + (row.last - row.first) < range.1)

instance (ranges : List (Nat × Nat)) (row : LowerRow) : Decidable (row.Apart ranges) :=
  inferInstanceAs (Decidable (∀ range ∈ ranges, _ ∧ _))

/-- Rows apart from some ranges do not change what is in them, and bring nothing else there. -/
theorem lowerCode_of_apart {ranges : List (Nat × Nat)} {rows : List LowerRow} {code : Nat}
    (hrows : ∀ row ∈ rows, row.Apart ranges)
    (h : inRanges ranges code = true ∨ inRanges ranges (lowerCode rows code) = true) :
    lowerCode rows code = code := by
  induction rows with
  | nil => rfl
  | cons row rest ih =>
    obtain ⟨hrow, hrest⟩ := List.forall_mem_cons.mp hrows
    unfold lowerCode at h ⊢
    split_ifs at h ⊢ with hfirst hhere
    · rfl
    · rcases h with h | h
      · obtain ⟨range, hmem, hrange⟩ := exists_of_inRanges h
        have := hrow range hmem
        omega
      · obtain ⟨range, hmem, hrange⟩ := exists_of_inRanges h
        have := hrow range hmem
        omega
    · exact ih hrest h

/-- The only plain characters with a lower-case form of another kind are the ASCII
capitals. -/
theorem apart_of_mem_tail : ∀ row ∈ lowerRows.tail, row.Apart plainRanges := by
  decide +kernel

/-- The lower-case form of an ASCII capital is 32 places behind it. -/
theorem toNat_toLower (c : Char) :
    c.toLower.toNat = if 0x41 ≤ c.toNat ∧ c.toNat ≤ 0x5A then c.toNat + 0x20 else c.toNat := by
  have hupper : c.isUpper = true ↔ 0x41 ≤ c.toNat ∧ c.toNat ≤ 0x5A := by
    simp [Char.isUpper, UInt32.le_iff_toNat_le]
  split_ifs with hcapital
  · have hvalid : (c.toNat + 0x20).isValidChar := Or.inl (by omega)
    rw [Char.toLower_eq_of_isUpper (hupper.mpr hcapital), Char.toNat_ofNat, if_pos hvalid]
  · rw [Char.toLower_eq_of_not_isUpper (fun h => hcapital (hupper.mp h))]

/-- The table begins with the ASCII capitals. -/
theorem lowerCode_lowerRows (c : Char) :
    lowerCode lowerRows c.toNat =
      if 0x41 ≤ c.toNat ∧ c.toNat ≤ 0x5A then c.toNat + 0x20
      else lowerCode lowerRows.tail c.toNat := by
  have hrows : lowerRows = ⟨0x41, 0x5A, 1, 0x61⟩ :: lowerRows.tail := rfl
  have hsecond : lowerRows.tail = ⟨0xC0, 0xD6, 1, 0xE0⟩ :: lowerRows.tail.tail := rfl
  rw [hrows, lowerCode, List.tail_cons]
  by_cases hfirst : c.toNat < 0x41
  · rw [if_pos hfirst, if_neg (by omega), hsecond, lowerCode, if_pos (by dsimp only; omega)]
  · rw [if_neg hfirst]
    simp only [Nat.mod_one, and_true]
    split_ifs <;> omega

/-- A character that is plain in the lower case of ASCII has no other lower-case form. -/
theorem lowerChar_of_plain {c : Char} (h : IsPlain c.toLower) : lowerChar c = [c.toLower] := by
  have hdotted : c ≠ '\u0130' := by
    rintro rfl
    exact absurd h (by decide)
  have hcode : lowerCode lowerRows c.toNat = c.toLower.toNat := by
    have hplain : inRanges plainRanges c.toLower.toNat = true := h
    rw [toNat_toLower] at hplain ⊢
    rw [lowerCode_lowerRows]
    split_ifs at hplain ⊢
    · rfl
    · exact lowerCode_of_apart apart_of_mem_tail (Or.inl hplain)
  rw [lowerChar, if_neg hdotted, hcode, Char.ofNat_toNat]

/-- A character whose lower-case form is plain is so in the lower case of ASCII. -/
theorem plain_toLower_of_lowerChar {c : Char} (h : ∀ d ∈ lowerChar c, IsPlain d) :
    IsPlain c.toLower := by
  unfold lowerChar at h
  split_ifs at h with hdotted
  · exact absurd (h '\u0307' (by decide)) (by decide)
  · have hplain := h _ List.mem_cons_self
    by_cases hvalid : (lowerCode lowerRows c.toNat).isValidChar
    · have hnumber : (Char.ofNat (lowerCode lowerRows c.toNat)).toNat =
          lowerCode lowerRows c.toNat := by
        rw [Char.toNat_ofNat, if_pos hvalid]
      rw [IsPlain, hnumber, lowerCode_lowerRows] at hplain
      rw [IsPlain, toNat_toLower]
      split_ifs at hplain ⊢
      · exact hplain
      · rwa [lowerCode_of_apart apart_of_mem_tail (Or.inr hplain)] at hplain
    · rw [Char.ofNat, dif_neg hvalid] at hplain
      exact absurd hplain (by decide)

/-- Characters that are plain in the lower case of ASCII have no other lower-case form. -/
theorem lowerChars_of_plain {chars : List Char} (h : ∀ c ∈ chars, IsPlain c.toLower)
    (before : List Char) : lowerChars before chars = chars.map Char.toLower := by
  induction chars generalizing before with
  | nil => rfl
  | cons c rest ih =>
    obtain ⟨hfirst, hrest⟩ := List.forall_mem_cons.mp h
    have hsigma : c ≠ '\u03A3' := by
      rintro rfl
      exact absurd hfirst (by decide)
    rw [lowerChars, if_neg (fun hends => hsigma hends.1), lowerChar_of_plain hfirst, ih hrest,
      List.map_cons, List.singleton_append]

/-- Characters whose lower-case form is plain are so in the lower case of ASCII. -/
theorem plain_toLower_of_lowerChars {chars before : List Char}
    (h : ∀ d ∈ lowerChars before chars, IsPlain d) : ∀ c ∈ chars, IsPlain c.toLower := by
  induction chars generalizing before with
  | nil => exact fun c hmem => absurd hmem List.not_mem_nil
  | cons c rest ih =>
    rw [lowerChars] at h
    obtain ⟨hfirst, hrest⟩ := List.forall_mem_append.mp h
    refine List.forall_mem_cons.mpr ⟨?_, ih hrest⟩
    split_ifs at hfirst
    · exact absurd (hfirst '\u03C2' List.mem_cons_self) (by decide)
    · exact plain_toLower_of_lowerChar hfirst

/-- A text with the same lower-case form as a plain one differs from it in the case of ASCII
letters at most. -/
theorem map_toLower_eq_of_plain {text other : String} (h : lowerCase other = lowerCase text)
    (hplain : ∀ c ∈ text.toList, IsPlain c.toLower) :
    other.toList.map Char.toLower = text.toList.map Char.toLower := by
  have hlower : lowerChars [] other.toList = lowerChars [] text.toList :=
    String.ofList_injective h
  have htext := lowerChars_of_plain hplain []
  have hother : ∀ c ∈ other.toList, IsPlain c.toLower := by
    have hlowered : ∀ d ∈ lowerChars [] other.toList, IsPlain d := by
      rw [hlower, htext]
      exact List.forall_mem_map.mpr hplain
    exact plain_toLower_of_lowerChars hlowered
  rw [← lowerChars_of_plain hother [], hlower, htext]

end Rulebook.Text
