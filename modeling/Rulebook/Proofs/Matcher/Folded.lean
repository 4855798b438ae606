import Rulebook.Proofs.Matcher.Reading
import Rulebook.Proofs.Numeral.LowerCase

/-!
# Texts that differ in case

Without a comparer a matcher sees of a text in a context only its lower-case form: texts are
compared in lower case, and a text that writes a number or names a truth value is one of
plain characters, so any other text with its lower-case form writes and names the same.
-/

namespace Rulebook

namespace Text

/-- Letters of ASCII are not blank. -/
theorem inRanges_blankRanges_of_letter {code : Nat} (hfirst : 0x41 ≤ code)
    (hlast : code ≤ 0x7A) : inRanges blankRanges code = false := by
  refine Bool.eq_false_iff.mpr fun hblank => ?_
  obtain ⟨range, hmem, hrange⟩ := exists_of_inRanges hblank
  have hapart : ∀ range ∈ blankRanges, range.2 < 0x41 ∨ 0x7A < range.1 := by decide
  have := hapart range hmem
  omega

/-- Blanks have no case. -/
theorem isBlank_toLower (c : Char) : isBlank c.toLower = isBlank c := by
  rw [isBlank, isBlank, toNat_toLower]
  split_ifs with hcapital
  · rw [inRanges_blankRanges_of_letter (by omega) (by omega),
      inRanges_blankRanges_of_letter (by omega) (by omega)]
  · rfl

/-- Blanks are plain. -/
theorem plain_of_isBlank {c : Char} (h : isBlank c = true) : IsPlain c.toLower := by
  rw [← isBlank_toLower] at h
  obtain ⟨range, hmem, hfirst, hlast⟩ := exists_of_inRanges h
  have hwithin : ∀ range ∈ blankRanges, ∃ plain ∈ plainRanges,
      plain.1 ≤ range.1 ∧ range.2 ≤ plain.2 := by decide
  obtain ⟨plain, hplain, hlow, hhigh⟩ := hwithin range hmem
  exact inRanges_of_mem (by decide) hplain (Nat.le_trans hlow hfirst)
    (Nat.le_trans hlast hhigh)

/-- Characters are trimmed alike in lower case. -/
theorem trimBlank_map (chars : List Char) :
    trimBlank (chars.map Char.toLower) = (trimBlank chars).map Char.toLower := by
  have hsame : isBlank ∘ Char.toLower = isBlank := funext isBlank_toLower
  simp only [trimBlank, List.dropWhile_map, hsame, ← List.map_reverse]

/-- Only blanks are dropped in front. -/
theorem isBlank_or_mem_dropWhile {chars : List Char} {c : Char} (h : c ∈ chars) :
    isBlank c = true ∨ c ∈ chars.dropWhile isBlank := by
  induction chars with
  | nil => exact absurd h List.not_mem_nil
  | cons first rest ih =>
    rw [List.dropWhile_cons]
    split_ifs with hblank
    · rcases List.mem_cons.mp h with rfl | hmem
      · exact Or.inl hblank
      · exact ih hmem
    · exact Or.inr h

/-- Trimming takes only blanks away. -/
theorem isBlank_or_mem_trimBlank {chars : List Char} {c : Char} (h : c ∈ chars) :
    isBlank c = true ∨ c ∈ trimBlank chars := by
  rw [trimBlank, List.mem_reverse]
  rcases isBlank_or_mem_dropWhile h with hblank | hmem
  · exact Or.inl hblank
  · exact isBlank_or_mem_dropWhile (List.mem_reverse.mpr hmem)

end Text

namespace Coercion

open Text

variable {s t : String}

/-- A text with the lower-case form of one that writes a number writes the same number. -/
theorem quantity?_of_lowerCase (h : lowerCase t = lowerCase s) {quantity : Quantity}
    (hquantity : quantity? (.string s) = some quantity) :
    quantity? (.string t) = some quantity := by
  have hplain : ∀ c ∈ s.toList, IsPlain c.toLower := by
    intro c hmem
    rcases isBlank_or_mem_trimBlank hmem with hblank | hkept
    · exact plain_of_isBlank hblank
    · exact Quantity.plain_of_ofChars? hquantity c hkept
  rw [quantity?, ← Quantity.ofChars?_map, ← trimBlank_map] at hquantity ⊢
  rwa [map_toLower_eq_of_plain h hplain]

/-- A text with the lower-case form of a plain word is that word up to the case of ASCII
letters. -/
theorem sameAsciiLetters_of_lowerCase (h : lowerCase t = lowerCase s) {word : String}
    (hword : ∀ c ∈ word.toList.map Char.toLower, IsPlain c)
    (hsame : sameAsciiLetters s word = true) : sameAsciiLetters t word = true := by
  unfold sameAsciiLetters at hsame ⊢
  have hletters := beq_iff_eq.mp hsame
  have hplain : ∀ c ∈ s.toList, IsPlain c.toLower := by
    rw [← hletters] at hword
    exact List.forall_mem_map.mp hword
  rw [map_toLower_eq_of_plain h hplain]
  exact hsame

/-- A text that writes a number or names a truth value, and one with the same lower-case
form, have the same order to every literal. -/
theorem order?_of_lowerCase (h : lowerCase t = lowerCase s) (literal : Json) :
    order? (.string t) literal = order? (.string s) literal := by
  cases literal with
  | string text => simp only [order?, Json.text?, Option.map_some, h]
  | number n =>
    have hquantity : quantity? (.string t) = quantity? (.string s) := Option.ext fun quantity =>
      ⟨quantity?_of_lowerCase h.symm, quantity?_of_lowerCase h⟩
    simp only [order?, hquantity]
  | bool b =>
    have hnames : ∀ word : String, (∀ c ∈ word.toList.map Char.toLower, IsPlain c) →
        sameAsciiLetters t word = sameAsciiLetters s word := fun word hword =>
      Bool.eq_iff_iff.mpr ⟨sameAsciiLetters_of_lowerCase h.symm hword,
        sameAsciiLetters_of_lowerCase h hword⟩
    simp only [order?, truth?, hnames "true" (plain_of_all rfl),
      hnames "false" (plain_of_all rfl)]
  | null | array _ | object _ => rfl

end Coercion

namespace Json

/-- Two values are the same, or texts with the same lower-case form. -/
def SameFolded (value other : Json) : Prop :=
  value = other ∨
    ∃ s t, value = .string s ∧ other = .string t ∧ Text.lowerCase t = Text.lowerCase s

/-- A key occurs somewhere in a value. -/
inductive HasKey (key : String) : Json → Prop where
  /-- An object has a field under it. -/
  | field {fields : List (String × Json)} {value : Json} (hmem : (key, value) ∈ fields) :
      HasKey key (.object fields)
  /-- It occurs in a field of an object. -/
  | inner {fields : List (String × Json)} {name : String} {value : Json}
      (hmem : (name, value) ∈ fields) (hkey : HasKey key value) : HasKey key (.object fields)
  /-- It occurs in an item of a list. -/
  | item {items : List Json} {value : Json} (hmem : value ∈ items) (hkey : HasKey key value) :
      HasKey key (.array items)

/-- A key occurs in an object as the key of a field or in a field. -/
theorem hasKey_cons_iff {key name : String} {value : Json} {rest : List (String × Json)} :
    HasKey key (.object ((name, value) :: rest)) ↔
      key = name ∨ HasKey key value ∨ HasKey key (.object rest) := by
  constructor
  · intro h
    cases h with
    | field hmem =>
      rcases List.mem_cons.mp hmem with hfirst | hmem
      · exact Or.inl (congrArg Prod.fst hfirst)
      · exact Or.inr (Or.inr (.field hmem))
    | inner hmem hkey =>
      rcases List.mem_cons.mp hmem with hfirst | hmem
      · cases hfirst
        exact Or.inr (Or.inl hkey)
      · exact Or.inr (Or.inr (.inner hmem hkey))
  · rintro (rfl | hkey | hkey)
    · exact .field List.mem_cons_self
    · exact .inner List.mem_cons_self hkey
    · cases hkey with
      | field hmem => exact .field (List.mem_cons_of_mem _ hmem)
      | inner hmem hkey => exact .inner (List.mem_cons_of_mem _ hmem) hkey

theorem not_hasKey_nil {key : String} : ¬ HasKey key (.object []) := by
  intro h
  cases h with
  | field hmem => cases hmem
  | inner hmem _ => cases hmem

theorem not_hasKey_of_isScalar {key : String} {value : Json} (h : value.isScalar = true) :
    ¬ HasKey key value := by
  rintro (_ | _ | _) <;> cases h

/-- An object in which a key does not occur has no field under it. -/
theorem find?_of_not_hasKey {key : String} {fields : Dict Json}
    (h : ¬ HasKey key (.object fields)) : Dict.find? key fields = none := by
  cases hfound : Dict.find? key fields with
  | none => rfl
  | some value => exact absurd (.field (Dict.mem_of_find? hfound)) h

variable {value other : Json}

/-- Values that differ in case have texts that do. -/
theorem SameFolded.lowerCase_text? (h : SameFolded value other) :
    value.text?.map Text.lowerCase = other.text?.map Text.lowerCase := by
  rcases h with rfl | ⟨s, t, rfl, rfl, hlower⟩
  · rfl
  · simp only [text?, Option.map_some, hlower]

end Json

open Json (SameFolded HasKey)

variable {value other : Json}

/-- Values that differ in case have the same order to every literal. -/
theorem Coercion.order?_of_sameFolded (h : SameFolded value other) (literal : Json) :
    order? value literal = order? other literal := by
  rcases h with rfl | ⟨s, t, rfl, rfl, hlower⟩
  · rfl
  · exact order?_of_lowerCase hlower.symm literal

namespace Condition

theorem compareHolds_of_sameFolded (h : SameFolded value other) (relation : Relation)
    (literal : Json) :
    compareHolds relation literal none value = compareHolds relation literal none other := by
  simp only [compareHolds, coercedHolds_eq, Coercion.order?_of_sameFolded h]

/-- A test of the text in lower case says the same of values that differ in case. -/
theorem testText_of_sameFolded (h : SameFolded value other) (test : List Char → Bool) :
    testText test value = testText test other := by
  have hfolded : foldedText? value = foldedText? other := by
    have htext := congrArg (Option.map String.toList) h.lowerCase_text?
    rwa [Option.map_map, Option.map_map] at htext
  rw [testText, testText, hfolded]

/-- A search for a text says the same of values that differ in case. -/
theorem containsHolds_of_sameFolded (h : SameFolded value other) (text : String) :
    containsHolds text value = containsHolds text other := by
  rcases h with rfl | ⟨s, t, rfl, rfl, hlower⟩
  · rfl
  · exact testText_of_sameFolded (Or.inr ⟨s, t, rfl, rfl, hlower⟩) _

end Condition

namespace Reading

variable {registry : Registry}

/-- An operator with literals says the same of values that differ in case. -/
theorem literal_of_sameFolded (h : SameFolded value other) (key : String) (argument : Json) :
    literal none value key argument = literal none other key argument := by
  unfold literal
  split <;> simp only [Condition.compareHolds_of_sameFolded h,
    Condition.containsHolds_of_sameFolded h, Condition.testText_of_sameFolded h]

-- One proof goes through the five forms of a condition. No object around it names a comparer,
-- so none is ever in force.
mutual

/-- A condition without comparers says the same of values that differ in case. -/
theorem condition_of_sameFolded (h : SameFolded value other) {around : Enclosure}
    (hnone : around.comparer? registry = none) {argument : Json}
    (hfree : ¬ HasKey comparerKey argument) :
    condition registry around value argument = condition registry around other argument := by
  cases argument with
  | array literals => simp only [condition, hnone, literal_of_sameFolded h]
  | object entries =>
    have hinner := comparer?_cons_of_none registry around (Json.find?_of_not_hasKey hfree)
    rw [hnone] at hinner
    rw [condition, condition, operators_of_sameFolded h hinner hfree]
  | null | bool _ | number _ | string _ =>
    simp only [condition, hnone, literal_of_sameFolded h]
termination_by (sizeOf argument, 1)

/-- So do the conditions of a list. -/
theorem conditions_of_sameFolded (h : SameFolded value other) {around : Enclosure}
    (hnone : around.comparer? registry = none) {arguments : List Json}
    (hfree : ∀ argument ∈ arguments, ¬ HasKey comparerKey argument) :
    conditions registry around value arguments = conditions registry around other arguments := by
  cases arguments with
  | nil => rw [conditions, conditions]
  | cons argument rest =>
    obtain ⟨hfirst, hrest⟩ := List.forall_mem_cons.mp hfree
    rw [conditions, conditions, condition_of_sameFolded h hnone hfirst,
      conditions_of_sameFolded h hnone hrest]
termination_by (sizeOf arguments, 0)

/-- So does an operator. -/
theorem operator_of_sameFolded (h : SameFolded value other) {around : Enclosure}
    (hnone : around.comparer? registry = none) (key : String) {argument : Json}
    (hfree : ¬ HasKey comparerKey argument) :
    operator registry around value key argument = operator registry around other key argument := by
  unfold operator
  split
  · rw [condition_of_sameFolded h hnone hfree]
  · rw [parts_of_sameFolded h hnone hfree]
  · rw [parts_of_sameFolded h hnone hfree]
  · rw [hnone, literal_of_sameFolded h]
termination_by (sizeOf argument, 3)

/-- So do the parts of a condition. -/
theorem parts_of_sameFolded (h : SameFolded value other) {around : Enclosure}
    (hnone : around.comparer? registry = none) {argument : Json}
    (hfree : ¬ HasKey comparerKey argument) :
    parts registry around value argument = parts registry around other argument := by
  cases argument with
  | array arguments =>
    rw [parts, parts, conditions_of_sameFolded h hnone fun argument hmem hkey =>
      hfree (.item hmem hkey)]
  | object entries =>
    have hinner := comparer?_cons_of_none registry around (Json.find?_of_not_hasKey hfree)
    rw [hnone] at hinner
    rw [parts, parts, operators_of_sameFolded h hinner hfree]
  | null | bool _ | number _ | string _ => simp only [parts]
termination_by (sizeOf argument, 2)

/-- So do the operators of an object. -/
theorem operators_of_sameFolded (h : SameFolded value other) {around : Enclosure}
    (hnone : around.comparer? registry = none) {entries : List (String × Json)}
    (hfree : ¬ HasKey comparerKey (.object entries)) :
    operators registry around value entries = operators registry around other entries := by
  match entries, hfree with
  | [], _ => rw [operators, operators]
  | (key, argument) :: rest, hfree =>
    simp only [Json.hasKey_cons_iff, not_or] at hfree
    rw [operators, operators, operators_of_sameFolded h hnone hfree.2.2,
      operator_of_sameFolded h hnone key hfree.2.1]
termination_by (sizeOf entries, 0)

end

variable {lookup renewed : Lookup}

mutual

/-- An entry without comparers says the same of contexts whose values differ in case. -/
theorem entry_of_sameFolded
    (h : ∀ name, SameFolded ((lookup name).getD .null) ((renewed name).getD .null))
    (key : String) {argument : Json} (hfree : ¬ HasKey comparerKey argument) :
    entry registry lookup key argument = entry registry renewed key argument := by
  unfold entry
  split
  · rw [matchers_of_sameFolded h fun item hmem hkey => hfree (.item hmem hkey)]
  · rw [matchers_of_sameFolded h fun item hmem hkey => hfree (.item hmem hkey)]
  · rw [entries_of_sameFolded h hfree]
  · exact condition_of_sameFolded (h _) rfl hfree
termination_by (sizeOf argument, 1)

/-- So do the matchers of a list. -/
theorem matchers_of_sameFolded
    (h : ∀ name, SameFolded ((lookup name).getD .null) ((renewed name).getD .null))
    {items : List Json} (hfree : ∀ item ∈ items, ¬ HasKey comparerKey item) :
    matchers registry lookup items = matchers registry renewed items := by
  match items, hfree with
  | [], _ => rw [matchers, matchers]
  | .object fields :: rest, hfree =>
    obtain ⟨hfirst, hrest⟩ := List.forall_mem_cons.mp hfree
    rw [matchers, matchers, entries_of_sameFolded h hfirst, matchers_of_sameFolded h hrest]
  | .null :: rest, hfree | .bool _ :: rest, hfree | .number _ :: rest, hfree
  | .string _ :: rest, hfree | .array _ :: rest, hfree =>
    simp only [matchers]
    exact matchers_of_sameFolded h (List.forall_mem_cons.mp hfree).2
termination_by (sizeOf items, 0)

/-- So do the entries of a matcher. -/
theorem entries_of_sameFolded
    (h : ∀ name, SameFolded ((lookup name).getD .null) ((renewed name).getD .null))
    {fields : List (String × Json)} (hfree : ¬ HasKey comparerKey (.object fields)) :
    entries registry lookup fields = entries registry renewed fields := by
  match fields, hfree with
  | [], _ => rw [entries, entries]
  | (key, argument) :: rest, hfree =>
    simp only [Json.hasKey_cons_iff, not_or] at hfree
    rw [entries, entries, entries_of_sameFolded h hfree.2.2, entry_of_sameFolded h key hfree.2.1]
termination_by (sizeOf fields, 0)

end

end Reading

/-- A compiled matcher that is written without comparers says the same of contexts whose
values differ in case. -/
theorem Matcher.eval_of_sameFolded {registry : Registry} {lookup renewed : Lookup}
    (h : ∀ name, SameFolded ((lookup name).getD .null) ((renewed name).getD .null))
    {written : Dict Json} (hfree : ¬ HasKey comparerKey (.object written)) {matcher : Matcher}
    (hcompile : compile registry written = .ok matcher) :
    matcher.eval lookup = matcher.eval renewed := by
  rw [eval_of_compile lookup hcompile, eval_of_compile renewed hcompile, Reading.matcher,
    Reading.matcher, Reading.entries_of_sameFolded h hfree]

end Rulebook
