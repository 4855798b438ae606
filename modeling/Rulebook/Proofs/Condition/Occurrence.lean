import Rulebook.Comparer.Version
import Rulebook.Proofs.Condition.Literals
import Rulebook.Proofs.Text.Sigma

/-!
# Texts that occur in a value

The operators on texts compare lower-case forms, that of the given text alone and that of the
whole value. A text that occurs in the value as it is written is found by them if its capital
sigmas end the same words in the value as they do in the text alone; at the beginning and at
the end of the value it is found in no other case.
-/

namespace Rulebook

namespace Text

/-- A text begins in lower case with its beginning in lower case exactly if the capital sigmas
of the beginning are kept. -/
theorem isPrefixOf_lowerChars_append (front back : List Char) :
    (lowerChars [] front).isPrefixOf (lowerChars [] (front ++ back)) = true ↔
      KeepsSigmas [] front back := by
  have hlength : (lowerChars [] front).length = (lowerWithin [] front back).length := by
    rw [← lowerWithin_nil]
    exact length_lowerWithin [] [] front [] back
  rw [← lowerWithin_eq_lowerChars_iff, lowerChars_eq_append, List.isPrefixOf_iff_prefix]
  constructor
  · rintro ⟨rest, hrest⟩
    exact (List.append_inj hrest hlength).1.symm
  · intro h
    rw [h]
    exact List.prefix_append _ _

/-- A text ends in lower case with its end in lower case exactly if the capital sigmas of the
end are kept. -/
theorem isSuffixOf_lowerChars_append (front back : List Char) :
    (lowerChars [] back).isSuffixOf (lowerChars [] (front ++ back)) = true ↔
      KeepsSigmas front.reverse back [] := by
  have hlength : (lowerChars [] back).length = (lowerChars front.reverse back).length := by
    rw [← lowerWithin_nil, ← lowerWithin_nil]
    exact length_lowerWithin [] front.reverse back [] []
  rw [← lowerWithin_eq_lowerChars_iff, lowerWithin_nil, lowerChars_eq_append, List.append_nil,
    List.isSuffixOf_iff_suffix]
  constructor
  · rintro ⟨rest, hrest⟩
    exact (List.append_inj' hrest hlength).2.symm
  · intro h
    rw [h]
    exact List.suffix_append _ _

/-- A text has in lower case a part of it in lower case if the capital sigmas of the part are
kept. -/
theorem infix_lowerChars_append {front part back : List Char}
    (h : KeepsSigmas front.reverse part back) :
    lowerChars [] part <:+: lowerChars [] (front ++ part ++ back) := by
  rw [List.append_assoc, lowerChars_eq_append, lowerChars_eq_append, List.append_nil,
    (lowerWithin_eq_lowerChars_iff _ _ _).mpr h, ← List.append_assoc]
  exact List.infix_append _ _ _

end Text

namespace Condition

/-- A literal operator alone compiles by itself. -/
theorem compile_single_literal (registry : Registry) (property : String)
    (comparer : Option Comparer) (operator : LiteralOperator) (argument : Json) :
    compile registry property comparer (.object [(operator.key, argument)]) =
      compileLiteral property operator.key comparer argument operator := by
  have hkey : operator.key ≠ comparerKey := (Operator.literal operator).key_ne_comparerKey
  rw [compile_single registry property comparer hkey, compileOperator_literal]

/-- A value with a text passes a test of its lower-case form exactly if the form does. -/
theorem testText_string (test : List Char → Bool) (text : String) :
    testText test (.string text) = test (Text.lowerChars [] text.toList) := by
  simp only [testText, foldedText?, Json.text?, Option.map_some, Text.lowerCase,
    String.toList_ofList]

/-- Exact occurrences are found but for capital sigmas. A value that begins or ends with a
text passes the test for it exactly if every capital sigma of the text ends a word in the value
if and only if it does in the text alone, and a value that contains the text passes the test
if the same is true of it there. -/
theorem holds_of_occurrence (registry : Registry) (property : String)
    (comparer : Option Comparer) (front text back : String) :
    (∃ condition, compile registry property comparer
        (.object [("$startswith", .string text)]) = .ok condition ∧
      (holds (.string (text ++ back)) condition = .ok true ↔
        Text.KeepsSigmas [] text.toList back.toList)) ∧
    (∃ condition, compile registry property comparer
        (.object [("$endswith", .string text)]) = .ok condition ∧
      (holds (.string (front ++ text)) condition = .ok true ↔
        Text.KeepsSigmas front.toList.reverse text.toList [])) ∧
    ∃ condition, compile registry property comparer
        (.object [("$contains", .string text)]) = .ok condition ∧
      (Text.KeepsSigmas front.toList.reverse text.toList back.toList →
        holds (.string (front ++ text ++ back)) condition = .ok true) := by
  have hfolded : (Text.lowerCase text).toList = Text.lowerChars [] text.toList :=
    String.toList_ofList
  refine ⟨⟨_, compile_single_literal registry property comparer .startsWith (.string text), ?_⟩,
    ⟨_, compile_single_literal registry property comparer .endsWith (.string text), ?_⟩,
    ⟨_, compile_single_literal registry property comparer .contains (.string text), fun h => ?_⟩⟩
  · rw [holds, testText_string, hfolded, String.toList_append, Except.ok.injEq]
    exact Text.isPrefixOf_lowerChars_append text.toList back.toList
  · rw [holds, testText_string, hfolded, String.toList_append, Except.ok.injEq]
    exact Text.isSuffixOf_lowerChars_append front.toList text.toList
  · have hsearch : containsHolds (Text.lowerCase text) (.string (front ++ text ++ back)) =
        testText (occursIn (Text.lowerCase text).toList) (.string (front ++ text ++ back)) := rfl
    rw [holds, hsearch, testText_string, hfolded, String.toList_append, String.toList_append,
      Except.ok.injEq, occursIn_iff_infix]
    exact Text.infix_lowerChars_append h

/-- A word with a sigma at its end, among other words. -/
theorem holds_of_occurrence_word :
    Text.KeepsSigmas "ΜΕΓΑΣ ".toList.reverse "ΟΔΟΣ".toList " 5".toList ∧
      ∃ condition, compile .builtin "address" none
          (.object [("$contains", .string "ΟΔΟΣ")]) = .ok condition ∧
        holds (.string ("ΜΕΓΑΣ " ++ "ΟΔΟΣ" ++ " 5")) condition = .ok true := by
  have hkeeps : Text.KeepsSigmas "ΜΕΓΑΣ ".toList.reverse "ΟΔΟΣ".toList " 5".toList :=
    (Text.lowerWithin_eq_lowerChars_iff _ _ _).mp (by decide +kernel)
  obtain ⟨-, -, condition, hcompile, hholds⟩ :=
    holds_of_occurrence .builtin "address" none "ΜΕΓΑΣ " "ΟΔΟΣ" " 5"
  exact ⟨hkeeps, condition, hcompile, hholds hkeeps⟩

/-- A word that ends with a sigma is not found at the beginning of a longer word, and a sigma
alone is found neither at the end of a word nor, if there is no other one, in it. -/
theorem exists_missed_occurrence :
    (∃ condition, compile .builtin "address" none
        (.object [("$startswith", .string "ΟΔΟΣ")]) = .ok condition ∧
      holds (.string ("ΟΔΟΣ" ++ "ΗΜΑ")) condition = .ok false) ∧
    (∃ condition, compile .builtin "address" none
        (.object [("$endswith", .string "Σ")]) = .ok condition ∧
      holds (.string ("ΟΔΟ" ++ "Σ")) condition = .ok false) ∧
    ∃ condition, compile .builtin "address" none
        (.object [("$contains", .string "Σ")]) = .ok condition ∧
      holds (.string ("ΟΔΟ" ++ "Σ" ++ "")) condition = .ok false := by
  refine ⟨⟨_, compile_single_literal .builtin "address" none .startsWith (.string "ΟΔΟΣ"), ?_⟩,
    ⟨_, compile_single_literal .builtin "address" none .endsWith (.string "Σ"), ?_⟩,
    ⟨_, compile_single_literal .builtin "address" none .contains (.string "Σ"), ?_⟩⟩
  · rw [holds]
    exact congrArg Except.ok (by decide +kernel)
  · rw [holds]
    exact congrArg Except.ok (by decide +kernel)
  · rw [holds]
    exact congrArg Except.ok (by decide +kernel)

end Condition

end Rulebook
