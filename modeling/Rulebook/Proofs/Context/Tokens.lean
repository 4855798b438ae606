import Mathlib.Data.List.TakeDrop
import Mathlib.Data.List.TakeWhile
import Rulebook.Context
import Rulebook.Proofs.Success

/-!
# What tokens write into a context

A token writes a value for a name. A context made of tokens gives a property the value
that the last token for it writes, whatever the case of the names and whatever earlier
tokens wrote, and no value to a property that no token is for.
-/

namespace Rulebook.Context

/-- A token writes a value for a name: it is the name, which is not empty and has no `=`,
then `=`, and then the value. -/
def Writes (token name value : String) : Prop :=
  name ≠ "" ∧ '=' ∉ name.toList ∧ token = name ++ "=" ++ value

/-- Tokens write nothing for a property. -/
def Untouched (tokens : List String) (name : String) : Prop :=
  ∀ token ∈ tokens, ∀ other value, Writes token other value →
    Text.lowerCase other ≠ Text.lowerCase name

/-- The last token for a property, under whatever name, writes a value. -/
def LastWrites (tokens : List String) (name value : String) : Prop :=
  ∃ before token after other, tokens = before ++ token :: after ∧ Writes token other value ∧
    Text.lowerCase other = Text.lowerCase name ∧ Untouched after name

theorem Writes.toList {token name value : String} (h : Writes token name value) :
    token.toList = name.toList ++ '=' :: value.toList := by
  rw [h.2.2, String.toList_append, String.toList_append, List.append_assoc]
  rfl

/-- A token is split into the name and the value that it writes. -/
theorem splitToken_of_writes {token name value : String} (h : Writes token name value) :
    splitToken token = .ok (name, value) := by
  have hfree : ∀ c ∈ name.toList, (c != '=') = true := by
    intro c hmem
    refine bne_iff_ne.mpr fun heq => ?_
    exact h.2.1 (heq ▸ hmem)
  have hname : name.toList.isEmpty = false := by
    rw [List.isEmpty_eq_false_iff, ne_eq, String.toList_eq_nil_iff]
    exact h.1
  have hspan : token.toList.span (· != '=') = (name.toList, '=' :: value.toList) := by
    rw [List.span_eq_takeWhile_dropWhile, h.toList, List.takeWhile_append_of_pos hfree,
      List.dropWhile_append_of_pos hfree]
    simp
  unfold splitToken
  rw [hspan]
  simp only [hname, Bool.false_eq_true, if_false, String.ofList_toList]

/-- A token that is split writes the value for the name. -/
theorem writes_of_splitToken {token name value : String}
    (h : splitToken token = .ok (name, value)) : Writes token name value := by
  have hwhole : token.toList.takeWhile (· != '=') ++ token.toList.dropWhile (· != '=') =
      token.toList := List.takeWhile_append_dropWhile
  unfold splitToken at h
  rw [List.span_eq_takeWhile_dropWhile] at h
  cases hdrop : token.toList.dropWhile (· != '=') with
  | nil =>
    rw [hdrop] at h
    cases h
  | cons c rest =>
    rw [hdrop] at h
    simp only at h
    split_ifs at h with hempty
    cases h
    -- The character behind the name is the one that ended the search.
    have hmark : c = '=' := by
      have hnot := List.head_dropWhile_not (· != '=') (l := token.toList) (by simp [hdrop])
      simpa [hdrop] using hnot
    rw [hdrop, hmark] at hwhole
    refine ⟨?_, ?_, ?_⟩
    · rw [ne_eq, ← String.toList_eq_nil_iff, String.toList_ofList]
      simpa using hempty
    · rw [String.toList_ofList]
      intro hmem
      have hother := List.mem_takeWhile_imp hmem
      simp at hother
    · rw [← String.toList_inj, String.toList_append, String.toList_append, String.toList_ofList,
        String.toList_ofList, List.append_assoc, String.toList_ofList]
      exact hwhole.symm

theorem Writes.unique {token name value other text : String} (h : Writes token name value)
    (hother : Writes token other text) : other = name ∧ text = value := by
  have hsame := (splitToken_of_writes hother).symm.trans (splitToken_of_writes h)
  cases hsame
  exact ⟨rfl, rfl⟩

/-- A token and further ones write nothing for a property if the token is for another one
and the others write nothing for it. -/
theorem untouched_cons_iff {token other text : String} (h : Writes token other text)
    {rest : List String} {name : String} :
    Untouched (token :: rest) name ↔
      Text.lowerCase other ≠ Text.lowerCase name ∧ Untouched rest name := by
  constructor
  · intro hall
    refine ⟨hall token List.mem_cons_self other text h, fun later hmem => ?_⟩
    exact hall later (List.mem_cons_of_mem _ hmem)
  · rintro ⟨hne, hrest⟩ later hmem found value hfound
    rcases List.mem_cons.mp hmem with rfl | hmem
    · obtain ⟨rfl, -⟩ := h.unique hfound
      exact hne
    · exact hrest later hmem found value hfound

/-- Of a token and further ones, the further ones have the last word. -/
theorem lastWrites_cons_iff {token other text : String} (h : Writes token other text)
    {rest : List String} {name value : String} :
    LastWrites (token :: rest) name value ↔
      LastWrites rest name value ∨
        (Text.lowerCase other = Text.lowerCase name ∧ text = value ∧ Untouched rest name) := by
  constructor
  · rintro ⟨before, found, after, written, hsplit, hwrites, hcase, hafter⟩
    cases before with
    | nil =>
      cases hsplit
      obtain ⟨rfl, rfl⟩ := h.unique hwrites
      exact Or.inr ⟨hcase, rfl, hafter⟩
    | cons first before =>
      cases hsplit
      exact Or.inl ⟨before, found, after, written, rfl, hwrites, hcase, hafter⟩
  · rintro (⟨before, found, after, written, rfl, hwrites, hcase, hafter⟩ | ⟨hcase, rfl, hrest⟩)
    · exact ⟨token :: before, found, after, written, rfl, hwrites, hcase, hafter⟩
    · exact ⟨[], token, rest, other, rfl, h, hcase, hrest⟩

/-- Tokens added to a context give a property the value that the last one for it writes,
and leave it alone if there is none. -/
theorem get?_addTokens {tokens : List String} {context final : Context}
    (h : addTokens context tokens = .ok final) (name : String) (value : Json) :
    final.get? name = some value ↔
      (∃ text, value = .string text ∧ LastWrites tokens name text) ∨
        (Untouched tokens name ∧ context.get? name = some value) := by
  induction tokens generalizing context with
  | nil =>
    cases h
    constructor
    · intro hvalue
      exact Or.inr ⟨fun token hmem => absurd hmem List.not_mem_nil, hvalue⟩
    · rintro (⟨text, -, before, token, after, other, hsplit, -⟩ | ⟨-, hvalue⟩)
      · simp at hsplit
      · exact hvalue
  | cons token rest ih =>
    obtain ⟨⟨other, text⟩, hsplit, hrest⟩ := Except.bind_eq_ok_iff.mp h
    have hwrites := writes_of_splitToken hsplit
    simp only [ih hrest, lastWrites_cons_iff hwrites, untouched_cons_iff hwrites]
    by_cases hcase : Text.lowerCase other = Text.lowerCase name
    · rw [get?_insert_of_same hcase.symm]
      constructor
      · rintro (⟨last, rfl, hlast⟩ | ⟨hfree, hvalue⟩)
        · exact Or.inl ⟨last, rfl, Or.inl hlast⟩
        · cases hvalue
          exact Or.inl ⟨text, rfl, Or.inr ⟨hcase, rfl, hfree⟩⟩
      · rintro (⟨last, rfl, hlast | ⟨-, rfl, hfree⟩⟩ | ⟨⟨hne, -⟩, -⟩)
        · exact Or.inl ⟨last, rfl, hlast⟩
        · exact Or.inr ⟨hfree, rfl⟩
        · exact absurd hcase hne
    · rw [get?_insert_of_ne (fun heq => hcase heq.symm)]
      constructor
      · rintro (⟨last, rfl, hlast⟩ | ⟨hfree, hvalue⟩)
        · exact Or.inl ⟨last, rfl, Or.inl hlast⟩
        · exact Or.inr ⟨⟨hcase, hfree⟩, hvalue⟩
      · rintro (⟨last, rfl, hlast | ⟨heq, -, -⟩⟩ | ⟨⟨-, hfree⟩, hvalue⟩)
        · exact Or.inl ⟨last, rfl, hlast⟩
        · exact absurd heq hcase
        · exact Or.inr ⟨hfree, hvalue⟩

/-- A context made of tokens has what the last token for a property writes, and nothing
else. -/
theorem get?_ofTokens {tokens : List String} {context : Context}
    (h : ofTokens tokens = .ok context) (name : String) (value : Json) :
    context.get? name = some value ↔
      ∃ text, value = .string text ∧ LastWrites tokens name text := by
  rw [get?_addTokens h]
  constructor
  · rintro (hlast | ⟨-, hnone⟩)
    · exact hlast
    · cases hnone
  · exact Or.inl

/-- What the last token for a property writes is the value that the context has. -/
theorem lastWrites_iff_get? {tokens : List String} {context : Context}
    (h : ofTokens tokens = .ok context) (name value : String) :
    LastWrites tokens name value ↔ context.get? name = some (.string value) := by
  rw [get?_ofTokens h]
  constructor
  · intro hlast
    exact ⟨value, rfl, hlast⟩
  · rintro ⟨text, htext, hlast⟩
    cases htext
    exact hlast

/-- Tokens make a context exactly when all of them write something. -/
theorem exists_addTokens_iff {tokens : List String} {context : Context} :
    (∃ final, addTokens context tokens = .ok final) ↔
      ∀ token ∈ tokens, ∃ name value, Writes token name value := by
  induction tokens generalizing context with
  | nil =>
    constructor
    · exact fun _ token hmem => absurd hmem List.not_mem_nil
    · exact fun _ => ⟨context, rfl⟩
  | cons token rest ih =>
    rw [List.forall_mem_cons]
    constructor
    · rintro ⟨final, hfinal⟩
      obtain ⟨⟨name, value⟩, hsplit, hrest⟩ := Except.bind_eq_ok_iff.mp hfinal
      exact ⟨⟨name, value, writes_of_splitToken hsplit⟩, ih.mp ⟨final, hrest⟩⟩
    · rintro ⟨⟨name, value, hwrites⟩, hrest⟩
      rw [addTokens, splitToken_of_writes hwrites, Except.ok_bind]
      exact ih.mpr hrest

/-- A token writes nothing: it is not of the form `name=value`. -/
def Malformed (token : String) : Prop := ∀ name value, ¬ Writes token name value

/-- The first token of a list that writes nothing; all tokens before it write something. -/
def FirstMalformed (tokens : List String) (token : String) : Prop :=
  ∃ before after, tokens = before ++ token :: after ∧
    (∀ earlier ∈ before, ¬ Malformed earlier) ∧ Malformed token

/-- A token that cannot be split is malformed, and is itself the error. -/
theorem splitToken_eq_error_iff {token : String} {error : MalformedToken} :
    splitToken token = .error error ↔ Malformed token ∧ error = ⟨token⟩ := by
  constructor
  · intro h
    refine ⟨fun name value hwrites => ?_, ?_⟩
    · rw [splitToken_of_writes hwrites] at h
      cases h
    · unfold splitToken at h
      split at h
      · split_ifs at h
        cases h
        rfl
      · cases h
        rfl
  · rintro ⟨hmalformed, rfl⟩
    unfold splitToken
    split
    next name mark value hspan =>
      split_ifs with hempty
      · rfl
      · refine absurd (writes_of_splitToken ?_) (hmalformed (String.ofList name) (String.ofList value))
        unfold splitToken
        rw [hspan]
        simp only [hempty, Bool.false_eq_true, if_false]
    next => rfl

/-- Tokens make no context exactly when one of them is malformed, and the first such token
is the error. -/
theorem addTokens_eq_error_iff {tokens : List String} {context : Context}
    {error : MalformedToken} :
    addTokens context tokens = .error error ↔
      ∃ token, FirstMalformed tokens token ∧ error = ⟨token⟩ := by
  induction tokens generalizing context with
  | nil =>
    constructor
    · intro h
      cases h
    · rintro ⟨token, ⟨before, after, hsplit, -⟩, -⟩
      simp at hsplit
  | cons first rest ih =>
    cases hfirst : splitToken first with
    | error found =>
      obtain ⟨hmalformed, rfl⟩ := splitToken_eq_error_iff.mp hfirst
      have hrun : addTokens context (first :: rest) = .error ⟨first⟩ := by
        rw [addTokens, hfirst]
        rfl
      rw [hrun]
      constructor
      · intro h
        cases h
        exact ⟨first, ⟨[], rest, rfl, by simp, hmalformed⟩, rfl⟩
      · rintro ⟨token, ⟨before, after, hsplit, hbefore, -⟩, rfl⟩
        cases before with
        | nil =>
          cases hsplit
          rfl
        | cons head before =>
          cases hsplit
          exact absurd hmalformed (hbefore first List.mem_cons_self)
    | ok written =>
      have hwrites := writes_of_splitToken hfirst
      have hrun : addTokens context (first :: rest) =
          addTokens (context.insert written.1 (.string written.2)) rest := by
        rw [addTokens, hfirst]
        rfl
      rw [hrun, ih]
      refine exists_congr fun token => and_congr_left fun _ => ?_
      constructor
      · rintro ⟨before, after, rfl, hbefore, hmalformed⟩
        refine ⟨first :: before, after, rfl, ?_, hmalformed⟩
        exact List.forall_mem_cons.mpr ⟨fun h => h _ _ hwrites, hbefore⟩
      · rintro ⟨before, after, hsplit, hbefore, hmalformed⟩
        cases before with
        | nil =>
          cases hsplit
          exact absurd hwrites (hmalformed _ _)
        | cons head before =>
          cases hsplit
          exact ⟨before, after, rfl, fun earlier hmem =>
            hbefore earlier (List.mem_cons_of_mem _ hmem), hmalformed⟩

/-- Two lists of tokens with the same last tokens for a property give it the same
value. -/
theorem get?_eq_of_lastWrites {tokens others : List String} {context other : Context}
    (hcontext : ofTokens tokens = .ok context) (hother : ofTokens others = .ok other)
    {name : String} (h : ∀ value, LastWrites tokens name value ↔ LastWrites others name value) :
    context.get? name = other.get? name := by
  refine Option.ext fun value => ?_
  rw [get?_ofTokens hcontext, get?_ofTokens hother]
  exact exists_congr fun text => and_congr_right fun _ => h text

end Rulebook.Context
