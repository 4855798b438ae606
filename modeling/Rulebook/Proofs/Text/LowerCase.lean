import Rulebook.Proofs.Text.Sigma

/-!
# Lower case and the ends of texts

No other character becomes a dollar sign in lower case, so the lower-case form of a
text begins with one exactly if the text does. What is behind a text changes its
lower-case form only if a letter with case is next to it.
-/

namespace Rulebook.Text

/-- A number below all forms in the rows is the form of itself alone. -/
theorem eq_of_lowerCode_eq {rows : List LowerRow} {code image : Nat}
    (hrows : ∀ row ∈ rows, image < row.image) (h : lowerCode rows code = image) :
    code = image := by
  induction rows with
  | nil => exact h
  | cons row rest ih =>
    obtain ⟨hrow, hrest⟩ := List.forall_mem_cons.mp hrows
    unfold lowerCode at h
    split_ifs at h
    · exact h
    · omega
    · exact ih hrest h

/-- A lower-case form begins with a dollar sign only if it is that of one. -/
theorem head?_lowerChar_append (c : Char) (rest : List Char) :
    (lowerChar c ++ rest).head? = some '$' ↔ c = '$' := by
  constructor
  · intro h
    unfold lowerChar at h
    split_ifs at h
    · simp at h
    · -- The forms in the table are all behind the dollar sign.
      have hnumber : (Char.ofNat (lowerCode lowerRows c.toNat)).toNat = 0x24 :=
        congrArg Char.toNat (Option.some.inj h)
      by_cases hvalid : (lowerCode lowerRows c.toNat).isValidChar
      · rw [Char.ofNat, dif_pos hvalid] at hnumber
        have hsame : c.toNat = 0x24 := eq_of_lowerCode_eq (by decide +kernel) hnumber
        rw [← Char.ofNat_toNat c, hsame]
      · rw [Char.ofNat, dif_neg hvalid] at hnumber
        exact absurd hnumber (by decide)
  · rintro rfl
    rfl

/-- A text begins with a dollar sign exactly if its lower-case form does. -/
theorem head?_lowerCase (text : String) :
    (lowerCase text).toList.head? = some '$' ↔ text.toList.head? = some '$' := by
  rw [lowerCase, String.toList_ofList]
  cases text.toList with
  | nil => exact Iff.rfl
  | cons c rest =>
    have hfirst : lowerChars [] (c :: rest) = lowerChar c ++ lowerChars [c] rest := by
      have hends : endsWord [] rest = false := rfl
      rw [lowerChars, hends, if_neg (fun hsigma => absurd hsigma.2 (by decide))]
    rw [hfirst, head?_lowerChar_append, List.head?_cons, Option.some_inj]

/-- What begins without a letter with case does not change which letter is next. -/
theorem nextIsCased_append {back : List Char} (hback : nextIsCased back = false)
    (front : List Char) : nextIsCased (front ++ back) = nextIsCased front := by
  induction front with
  | nil => exact hback
  | cons c rest ih =>
    unfold nextIsCased at ih ⊢
    rw [List.cons_append, List.dropWhile_cons, List.dropWhile_cons]
    split_ifs
    · exact ih
    · rfl

/-- A text has its lower-case form also before what begins without a letter with case. -/
theorem lowerChars_append {back : List Char} (hback : nextIsCased back = false)
    (before front : List Char) :
    lowerChars before (front ++ back) =
      lowerChars before front ++ lowerChars (front.reverse ++ before) back := by
  have hsame : lowerWithin before front back = lowerWithin before front [] := by
    refine (lowerWithin_eq_iff before before front back []).mpr fun _ rest _ => ?_
    rw [endsWord, endsWord, nextIsCased_append hback, List.append_nil]
  rw [lowerChars_eq_append, hsame, lowerWithin_nil]

end Rulebook.Text
