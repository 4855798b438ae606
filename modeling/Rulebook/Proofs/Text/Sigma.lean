import Mathlib.Data.List.Basic
import Rulebook.Text.LowerCase

/-!
# Lower case within a longer text

The lower-case form of a text may depend on what stands around it, but only through its
capital sigmas: each of them becomes one character, which tells whether a word ends there. So
a text has within another one the form that it has alone exactly if its capital sigmas end
words in the one as they do in the other.
-/

namespace Rulebook.Text

/-- The lower-case form of a character between those before it, the nearest one first, and
those behind it. -/
def formAt (before : List Char) (c : Char) (after : List Char) : List Char :=
  if c = '\u03A3' ∧ endsWord before after then ['\u03C2'] else lowerChar c

/-- The lower-case form of a text between the characters before it and those behind it. -/
def lowerWithin (before : List Char) : List Char → List Char → List Char
  | [], _ => []
  | c :: rest, after => formAt before c (rest ++ after) ++ lowerWithin (c :: before) rest after

/-- Every capital sigma of a text ends a word between other characters, the nearest one before
the text first, exactly if it does in the text alone. -/
def KeepsSigmas (before text after : List Char) : Prop :=
  ∀ front back, text = front ++ '\u03A3' :: back →
    endsWord (front.reverse ++ before) (back ++ after) = endsWord front.reverse back

theorem lowerChars_cons (before : List Char) (c : Char) (rest : List Char) :
    lowerChars before (c :: rest) = formAt before c rest ++ lowerChars (c :: before) rest := rfl

/-- The lower-case form of a longer text is made of those of its parts, each within the
others. -/
theorem lowerChars_eq_append (before front back : List Char) :
    lowerChars before (front ++ back) =
      lowerWithin before front back ++ lowerChars (front.reverse ++ before) back := by
  induction front generalizing before with
  | nil => rfl
  | cons c rest ih =>
    rw [List.cons_append, lowerChars_cons, lowerWithin, ih, List.append_assoc,
      List.reverse_cons, List.append_assoc, List.singleton_append]

/-- With nothing behind it a text has its own form. -/
theorem lowerWithin_nil (before text : List Char) :
    lowerWithin before text [] = lowerChars before text := by
  have hform := lowerChars_eq_append before text []
  rw [List.append_nil, lowerChars, List.append_nil] at hform
  exact hform.symm

/-- A capital sigma has one of two forms, and every other character the same form
everywhere. -/
theorem formAt_eq (before : List Char) (c : Char) (after : List Char) :
    formAt before c after =
      if c = '\u03A3' then [if endsWord before after then '\u03C2' else '\u03C3']
      else lowerChar c := by
  by_cases hsigma : c = '\u03A3'
  · have hform : lowerChar '\u03A3' = ['\u03C3'] := by decide +kernel
    rw [if_pos hsigma, formAt, hsigma, hform]
    cases endsWord before after <;> rfl
  · rw [if_neg hsigma, formAt, if_neg fun h => hsigma h.1]

variable (before other : List Char)

theorem length_formAt (c : Char) (after last : List Char) :
    (formAt before c after).length = (formAt other c last).length := by
  rw [formAt_eq, formAt_eq]
  split_ifs <;> rfl

/-- A text has forms of the same length in all places. -/
theorem length_lowerWithin (text after last : List Char) :
    (lowerWithin before text after).length = (lowerWithin other text last).length := by
  induction text generalizing before other with
  | nil => rfl
  | cons c rest ih =>
    rw [lowerWithin, lowerWithin, List.length_append, List.length_append,
      ih (c :: before) (c :: other), length_formAt before other]

/-- A character has the same form in two places unless it is a capital sigma that ends a word
in only one of them. -/
theorem formAt_eq_iff (c : Char) (after last : List Char) :
    formAt before c after = formAt other c last ↔
      (c = '\u03A3' → endsWord before after = endsWord other last) := by
  rw [formAt_eq, formAt_eq]
  by_cases hsigma : c = '\u03A3'
  · rw [if_pos hsigma, if_pos hsigma]
    cases endsWord before after <;> cases endsWord other last <;> simp [hsigma]
  · rw [if_neg hsigma, if_neg hsigma]
    exact iff_of_true rfl fun h => absurd h hsigma

/-- A text has the same form in two places exactly if its capital sigmas end the same
words. -/
theorem lowerWithin_eq_iff (text after last : List Char) :
    lowerWithin before text after = lowerWithin other text last ↔
      ∀ front back, text = front ++ '\u03A3' :: back →
        endsWord (front.reverse ++ before) (back ++ after) =
          endsWord (front.reverse ++ other) (back ++ last) := by
  induction text generalizing before other with
  | nil => simp [lowerWithin]
  | cons c rest ih =>
    have hparts : lowerWithin before (c :: rest) after = lowerWithin other (c :: rest) last ↔
        formAt before c (rest ++ after) = formAt other c (rest ++ last) ∧
          lowerWithin (c :: before) rest after = lowerWithin (c :: other) rest last := by
      rw [lowerWithin, lowerWithin]
      constructor
      · intro h
        exact List.append_inj h (length_formAt before other c _ _)
      · rintro ⟨hfirst, hrest⟩
        rw [hfirst, hrest]
    rw [hparts, formAt_eq_iff, ih]
    -- The first character is either the sigma in question or stands before it.
    constructor
    · rintro ⟨hfirst, hrest⟩ front back hsplit
      rcases List.cons_eq_append_iff.mp hsplit with ⟨rfl, hback⟩ | ⟨front, rfl, hfront⟩
      · cases hback
        exact hfirst rfl
      · have hends := hrest front back hfront
        rwa [List.reverse_cons, List.append_assoc, List.append_assoc, List.singleton_append]
    · intro h
      refine ⟨fun hsigma => ?_, fun front back hsplit => ?_⟩
      · exact h [] rest (by rw [hsigma, List.nil_append])
      · have hends := h (c :: front) back (by rw [hsplit, List.cons_append])
        rwa [List.reverse_cons, List.append_assoc, List.append_assoc,
          List.singleton_append] at hends

/-- A text has its own form within another exactly if its capital sigmas are kept. -/
theorem lowerWithin_eq_lowerChars_iff (text after : List Char) :
    lowerWithin before text after = lowerChars [] text ↔ KeepsSigmas before text after := by
  rw [← lowerWithin_nil, lowerWithin_eq_iff]
  simp only [List.append_nil, KeepsSigmas]

end Rulebook.Text
