import Rulebook.Proofs.Condition.Compiled
import Rulebook.Proofs.Evaluation.Results

/-!
# What literals say

The kind of a literal decides what a value is taken for when no comparer is asked, and the
texts of values decide everything else. Both are described here without the tests that a
condition runs, and a way of reading the operators with a literal is measured by that.
-/

namespace Rulebook

/-- A value has an order to a literal, as the kind of the literal has it. To no other value, and
in no other order, is a literal compared without a comparer. -/
inductive ComparesAs : Json → Json → Ordering → Prop where
  /-- Null equals null. -/
  | null : ComparesAs .null .null .eq
  /-- A text is compared with the texts of scalars, both in lower case. -/
  | text {value : Json} {own literal : String} (h : value.text? = some own) :
      ComparesAs value (.string literal) (compare (Text.lowerCase own) (Text.lowerCase literal))
  /-- A number is compared with numbers. -/
  | number (own literal : Number) :
      ComparesAs (.number own) (.number literal)
        (compare own.toBinary64.signedUnits literal.toBinary64.signedUnits)
  /-- A number is compared with what texts write between blanks, unless that is no number. -/
  | writtenNumber {own : String} {literal : Number} {quantity : Quantity} {order : Ordering}
      (h : Quantity.ofChars? (Text.trimBlank own.toList) = some quantity)
      (horder : quantity.order? literal.toBinary64 = some order) :
      ComparesAs (.string own) (.number literal) order
  /-- A truth value is compared with truth values. -/
  | truth (own literal : Bool) : ComparesAs (.bool own) (.bool literal) (compare own literal)
  /-- A truth value is compared with the names of truth values, in letters of either case. -/
  | truthName {own name : String} {named : Bool} (literal : Bool)
      (hname : (Json.bool named).text? = some name) (h : Text.sameAsciiLetters own name = true) :
      ComparesAs (.string own) (.bool literal) (compare named literal)
  /-- An array or an object equals the same value. -/
  | same {value literal : Json} (hliteral : literal.isScalar = false)
      (h : value.same literal = true) : ComparesAs value literal .eq

namespace Coercion

/-- A text names one truth value at most. -/
theorem truth?_string {own name : String} {named : Bool}
    (hname : (Json.bool named).text? = some name) (h : Text.sameAsciiLetters own name = true) :
    truth? (.string own) = some named := by
  unfold truth?
  cases named with
  | true =>
    cases hname
    exact if_pos h
  | false =>
    cases hname
    have hletters : own.toList.map Char.toLower = "false".toList.map Char.toLower :=
      beq_iff_eq.mp h
    have hother : Text.sameAsciiLetters own "true" = false := by
      rw [Text.sameAsciiLetters, hletters]
      decide
    simp only [hother, h, Bool.false_eq_true, if_false, if_true]

/-- The order that is computed is the one that the kind of the literal gives. -/
theorem order?_eq_some_iff {value literal : Json} {order : Ordering} :
    order? value literal = some order ↔ ComparesAs value literal order := by
  constructor
  · intro h
    cases literal with
    | null =>
      cases value with
      | null =>
        cases h
        exact .null
      | bool _ | number _ | string _ | array _ | object _ => cases h
    | bool literal =>
      obtain ⟨named, hnamed, rfl⟩ := Option.map_eq_some_iff.mp h
      cases value with
      | bool own =>
        cases hnamed
        exact .truth _ literal
      | string own =>
        unfold truth? at hnamed
        dsimp only at hnamed
        split_ifs at hnamed with htrue hfalse
        · cases hnamed
          exact .truthName literal rfl htrue
        · cases hnamed
          exact .truthName literal rfl hfalse
      | null | number _ | array _ | object _ => cases hnamed
    | number literal =>
      obtain ⟨quantity, hquantity, horder⟩ := Option.bind_eq_some_iff.mp h
      cases value with
      | number own =>
        cases hquantity
        cases horder
        exact .number own literal
      | string own => exact .writtenNumber hquantity horder
      | null | bool _ | array _ | object _ => cases hquantity
    | string literal =>
      obtain ⟨own, hown, rfl⟩ := Option.map_eq_some_iff.mp h
      exact .text hown
    | array _ | object _ =>
      simp only [order?] at h
      split_ifs at h with hsame
      cases h
      exact .same rfl hsame
  · intro h
    cases h with
    | null => rfl
    | text h => simp only [order?, h, Option.map_some]
    | number own literal => rfl
    | writtenNumber h horder => simp only [order?, quantity?, h, Option.bind_some, horder]
    | truth own literal => rfl
    | truthName literal hname h =>
      simp only [order?, truth?_string hname h, Option.map_some]
    | same hliteral h =>
      cases literal with
      | array _ | object _ => simp only [order?, h, if_true]
      | null | bool _ | number _ | string _ => cases hliteral

end Coercion

/-- A test is not refused, and holds exactly under a condition. -/
def Verdict.Decides (verdict : Verdict) (condition : Prop) : Prop :=
  ∃ held : Bool, verdict = .ok held ∧ (held = true ↔ condition)

/-- A value contains a text: an array by an item whose text it is, any other value by its own
text, and all of them in lower case. -/
def Json.ContainsText (text : String) : Json → Prop
  | .array items => ∃ item ∈ items, ∃ own, item.text? = some own ∧
      Text.lowerCase own = Text.lowerCase text
  | value => ∃ own, value.text? = some own ∧
      (Text.lowerCase text).toList <:+: (Text.lowerCase own).toList

/-- A way of reading operators with a literal says of a value what the comparer in force or else
the kind of the literal says, and what the text of the value says. -/
structure ReadsLiterals (reads : Option Comparer → Json → String → Json → Verdict) : Prop where
  /-- Without a comparer a comparison holds as the kind of the literal has the order. -/
  ordered : ∀ {value literal : Json} {order : Ordering}, ComparesAs value literal order →
    ∀ relation : Relation, reads none value relation.key literal = .ok (relation.holds order)
  /-- A value that the literal has no order to is unequal to it and nothing else. -/
  unordered : ∀ {value literal : Json}, (∀ order, ¬ ComparesAs value literal order) →
    ∀ relation : Relation, reads none value relation.key literal = .ok (relation == .ne)
  /-- With a comparer a comparison holds as the comparer has the order of the texts, and is
  refused as the comparer does. -/
  compared : ∀ (comparer : Comparer) {value literal : Json} {left right : String},
    value.text? = some left → literal.text? = some right → ∀ relation : Relation,
      reads (some comparer) value relation.key literal =
        (comparer.compare left right).map relation.holds
  /-- What has no text is unequal for every comparer and nothing else. -/
  textless : ∀ (comparer : Comparer) {value literal : Json},
    value.text? = none ∨ literal.text? = none → ∀ relation : Relation,
      reads (some comparer) value relation.key literal = .ok (relation == .ne)
  /-- A value is among literals if it equals one, from the left. -/
  among : ∀ comparer value literals,
    reads comparer value "$in" (.array literals) =
      Verdict.any (literals.map fun literal => reads comparer value "$eq" literal)
  /-- The beginning of the text of a value, in lower case. -/
  startsWith : ∀ comparer value {argument : Json} {text : String}, argument.text? = some text →
    (reads comparer value "$startswith" argument).Decides (∃ own, value.text? = some own ∧
      (Text.lowerCase text).toList <+: (Text.lowerCase own).toList)
  /-- The end of the text of a value, in lower case. -/
  endsWith : ∀ comparer value {argument : Json} {text : String}, argument.text? = some text →
    (reads comparer value "$endswith" argument).Decides (∃ own, value.text? = some own ∧
      (Text.lowerCase text).toList <:+ (Text.lowerCase own).toList)
  /-- A text that a value contains. -/
  contains : ∀ comparer value {argument : Json} {text : String}, argument.text? = some text →
    (reads comparer value "$contains" argument).Decides (value.ContainsText text)

namespace Condition

theorem occursIn_iff_infix {part text : List Char} :
    occursIn part text = true ↔ part <:+: text := by
  induction text with
  | nil => rw [occursIn, List.isEmpty_iff, List.infix_nil]
  | cons c rest ih =>
    rw [occursIn, Bool.or_eq_true, ih, List.isPrefixOf_iff_prefix, List.infix_cons_iff]

/-- A value passes a test if it has a text whose lower-case form does. -/
theorem testText_iff {test : List Char → Bool} {value : Json} :
    testText test value = true ↔
      ∃ own, value.text? = some own ∧ test (Text.lowerCase own).toList = true := by
  unfold testText foldedText?
  cases value.text? with
  | none => simp only [Option.map_none, Bool.false_eq_true, reduceCtorEq, false_and, exists_false]
  | some own => simp only [Option.map_some, Option.some.injEq, exists_eq_left']

/-- A text is found in the values that contain it. -/
theorem containsHolds_iff {text : String} {value : Json} :
    containsHolds (Text.lowerCase text) value = true ↔ value.ContainsText text := by
  cases value with
  | array items =>
    simp only [containsHolds, Json.ContainsText, List.any_eq_true, testText_iff, beq_iff_eq,
      String.toList_inj]
  | null | bool _ | number _ | string _ | object _ =>
    simp only [containsHolds, Json.ContainsText, testText_iff, occursIn_iff_infix]

end Condition

end Rulebook
