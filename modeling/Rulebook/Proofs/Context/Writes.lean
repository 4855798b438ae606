import Mathlib.Data.Finset.Card
import Rulebook.Proofs.Context.Tokens

/-!
# A context as its history of writes

A context remembers of every property the value written last, whatever the case of the
names, and has as many properties as names were written that differ in lower case. One more
write keeps this for the history with that write at its end, so it holds for the writes of
tokens and all that are made afterwards. Tokens that write nothing are told by their first
mark, and the first of them is the error.
-/

namespace Rulebook

namespace Dict

variable {α : Type}

/-- The keys after a write are the written one and those there before. -/
theorem mem_keys_insert {key other : String} {value : α} {dict : Dict α} :
    other ∈ keys (insert key value dict) ↔ other = key ∨ other ∈ keys dict := by
  induction dict with
  | nil => simp [insert, keys]
  | cons entry rest ih =>
    obtain ⟨k, old⟩ := entry
    simp only [keys] at ih ⊢
    unfold insert
    split
    · next heq => simp [heq]
    · split
      · simp
      · rw [List.map_cons, List.mem_cons, ih, List.map_cons, List.mem_cons]
        exact or_left_comm

/-- A dictionary in order has no key twice. -/
theorem nodup_keys {dict : Dict α} (hordered : Ordered dict) : (keys dict).Nodup :=
  List.pairwise_map.mpr <| hordered.imp fun {a b} hlt (heq : a.1 = b.1) =>
    String.lt_irrefl b.1 (heq ▸ hlt)

end Dict

namespace Context

/-- The value of the last write for a property, under whatever name. -/
def lastWritten (history : List (String × Json)) (name : String) : Option Json :=
  ((history.filter fun write => Text.lowerCase write.1 == Text.lowerCase name).map
    Prod.snd).getLast?

/-- The names that were written, in lower case. -/
def writtenNames (history : List (String × Json)) : List String :=
  history.map fun write => Text.lowerCase write.1

/-- The context after some writes, one after the other. -/
def replaceAll (context : Context) (writes : List (String × Json)) : Context :=
  writes.foldl (fun context write => (context.replace write.1 write.2).2) context

/-- The last write of a property decides. -/
theorem lastWritten_append_singleton (history : List (String × Json)) (name other : String)
    (value : Json) :
    lastWritten (history ++ [(name, value)]) other =
      if Text.lowerCase other = Text.lowerCase name then some value
      else lastWritten history other := by
  unfold lastWritten
  rw [List.filter_append, List.map_append, List.getLast?_append]
  split_ifs with hcase
  · rw [hcase, List.filter_cons_of_pos (by simp)]
    rfl
  · rw [List.filter_cons_of_neg (by simpa using Ne.symm hcase)]
    rfl

/-- A context remembers the last writes of a history, and its properties are those that were
written. -/
structure Remembers (context : Context) (history : List (String × Json)) : Prop where
  /-- The entries are in order. -/
  ordered : Dict.Ordered context.entries
  /-- The entries are for the names that were written. -/
  mem_keys : ∀ key, key ∈ Dict.keys context.entries ↔ key ∈ writtenNames history
  /-- Each property has the value written last. -/
  get?_eq : ∀ name, context.get? name = lastWritten history name

theorem remembers_empty : Remembers empty [] :=
  ⟨List.Pairwise.nil, fun _ => Iff.rfl, fun _ => rfl⟩

/-- After one more write a context remembers the history with this write. -/
theorem Remembers.replace {context : Context} {history : List (String × Json)}
    (h : Remembers context history) (name : String) (value : Json) :
    Remembers (context.replace name value).2 (history ++ [(name, value)]) where
  ordered := Dict.ordered_insert (Text.lowerCase name) value h.ordered
  mem_keys key := by
    have hkey : key ∈ Dict.keys (context.replace name value).2.entries ↔
        key = Text.lowerCase name ∨ key ∈ writtenNames history :=
      Dict.mem_keys_insert.trans (or_congr_right (h.mem_keys key))
    rw [writtenNames, List.map_append, List.mem_append, ← writtenNames, List.map_cons, List.map_nil,
      List.mem_singleton]
    exact hkey.trans or_comm
  get?_eq other := by
    rw [lastWritten_append_singleton]
    split_ifs with hcase
    · exact get?_insert_of_same hcase value context
    · exact (get?_insert_of_ne hcase value context).trans (h.get?_eq other)

/-- After some more writes a context remembers the history with them. -/
theorem Remembers.replaceAll {context : Context} {history : List (String × Json)}
    (h : Remembers context history) (writes : List (String × Json)) :
    Remembers (context.replaceAll writes) (history ++ writes) := by
  induction writes generalizing context history with
  | nil => rwa [List.append_nil]
  | cons write rest ih =>
    rw [List.append_cons]
    exact ih (h.replace write.1 write.2)

/-- A context has as many properties as different names were written. -/
theorem Remembers.size_eq {context : Context} {history : List (String × Json)}
    (h : Remembers context history) : context.size = (writtenNames history).toFinset.card := by
  have hkeys : (Dict.keys context.entries).toFinset = (writtenNames history).toFinset := by
    ext key
    rw [List.mem_toFinset, List.mem_toFinset]
    exact h.mem_keys key
  rw [← hkeys, List.toFinset_card_of_nodup (Dict.nodup_keys h.ordered), Dict.keys, List.length_map]
  rfl

/-- A token writes a text for a name. -/
def TokenWrites (token : String) (write : String × Json) : Prop :=
  ∃ text, Writes token write.1 text ∧ write.2 = .string text

/-- Tokens are added to a context as the writes that they stand for. -/
theorem addTokens_eq_replaceAll {tokens : List String} {writes : List (String × Json)}
    (h : List.Forall₂ TokenWrites tokens writes) (context : Context) :
    addTokens context tokens = .ok (context.replaceAll writes) := by
  induction h generalizing context with
  | nil => rfl
  | @cons token write rest others hwrites _ ih =>
    obtain ⟨text, hwrites, htext⟩ := hwrites
    rw [addTokens, splitToken_of_writes hwrites, Except.ok_bind]
    dsimp only
    rw [ih, ← htext]
    rfl

/-- A token has no name: it has no `=` or begins with one. -/
def LacksName (token : String) : Prop :=
  '=' ∉ token.toList ∨ token.toList.head? = some '='

/-- A token writes nothing exactly if it has no name. -/
theorem malformed_iff {token : String} : Malformed token ↔ LacksName token := by
  constructor
  · intro hmalformed
    by_contra hnamed
    obtain ⟨hmark, hfirst⟩ := not_or.mp hnamed
    obtain ⟨name, value, hsplit, hfree⟩ := List.eq_append_cons_of_mem (not_not.mp hmark)
    refine hmalformed (String.ofList name) (String.ofList value) ⟨?_, ?_, ?_⟩
    · intro hempty
      rw [← String.toList_eq_nil_iff, String.toList_ofList] at hempty
      rw [hsplit, hempty] at hfirst
      exact hfirst rfl
    · rwa [String.toList_ofList]
    · rw [← String.toList_inj, String.toList_append, String.toList_append, String.toList_ofList,
        String.toList_ofList, List.append_assoc, String.toList_ofList]
      exact hsplit
  · intro hlacks name value hwrites
    have hlist := hwrites.toList
    rcases hlacks with hmark | hfirst
    · exact hmark (by simp [hlist])
    · obtain ⟨hne, hfree, -⟩ := hwrites
      cases hname : name.toList with
      | nil => exact hne (String.toList_eq_nil_iff.mp hname)
      | cons c rest =>
        rw [hlist, hname] at hfirst
        rw [hname] at hfree
        cases hfirst
        exact hfree List.mem_cons_self

/-- Tokens that all have a name stand for writes. -/
theorem exists_writes_of_named {tokens : List String} (h : ∀ token ∈ tokens, ¬ LacksName token) :
    ∃ writes, List.Forall₂ TokenWrites tokens writes := by
  induction tokens with
  | nil => exact ⟨[], .nil⟩
  | cons token rest ih =>
    obtain ⟨hfirst, hrest⟩ := List.forall_mem_cons.mp h
    obtain ⟨writes, hwrites⟩ := ih hrest
    rw [← malformed_iff] at hfirst
    simp only [Malformed, not_forall, not_not] at hfirst
    obtain ⟨name, text, hname⟩ := hfirst
    exact ⟨(name, .string text) :: writes, .cons ⟨text, hname, rfl⟩ hwrites⟩

/-- Tokens make no context exactly if one of them has no name, and the first such token is
the error. Tokens that all have one stand for writes; and tokens that stand for writes make a
context which, after any further writes, has of every property the last value of this whole
history and as many properties as different names in lower case were written. A further write
returns what the property had before and leaves the others as they are. -/
theorem remembers_last_writes (tokens : List String) :
    (∀ error, ofTokens tokens = .error error ↔
      ∃ before token after, tokens = before ++ token :: after ∧
        (∀ earlier ∈ before, ¬ LacksName earlier) ∧ LacksName token ∧ error = ⟨token⟩) ∧
    ((∀ token ∈ tokens, ¬ LacksName token) → ∃ written, List.Forall₂ TokenWrites tokens written) ∧
    ∀ written, List.Forall₂ TokenWrites tokens written →
      ∃ context, ofTokens tokens = .ok context ∧ ∀ inserts,
        (∀ name, (context.replaceAll inserts).get? name = lastWritten (written ++ inserts) name) ∧
        (context.replaceAll inserts).size =
          (writtenNames (written ++ inserts)).toFinset.card ∧
        ∀ name value,
          ((context.replaceAll inserts).replace name value).1 =
            (context.replaceAll inserts).get? name ∧
          ∀ other, Text.lowerCase other ≠ Text.lowerCase name →
            ((context.replaceAll inserts).replace name value).2.get? other =
              (context.replaceAll inserts).get? other := by
  refine ⟨fun error => ?_, exists_writes_of_named, fun written hwritten => ?_⟩
  · rw [ofTokens, addTokens_eq_error_iff]
    simp only [FirstMalformed, malformed_iff]
    constructor
    · rintro ⟨token, ⟨before, after, hsplit, hbefore, htoken⟩, herror⟩
      exact ⟨before, token, after, hsplit, hbefore, htoken, herror⟩
    · rintro ⟨before, token, after, hsplit, hbefore, htoken, herror⟩
      exact ⟨token, ⟨before, after, hsplit, hbefore, htoken⟩, herror⟩
  · refine ⟨empty.replaceAll written, addTokens_eq_replaceAll hwritten empty, fun inserts => ?_⟩
    have hwrites := remembers_empty.replaceAll written
    rw [List.nil_append] at hwrites
    have hfinal := hwrites.replaceAll inserts
    refine ⟨hfinal.get?_eq, hfinal.size_eq, fun name value => ⟨rfl, fun other hne => ?_⟩⟩
    exact get?_insert_of_ne hne value _

/-- Three tokens for two properties, one of which has an empty value and one a value with
`=`, and a further write. -/
theorem remembers_last_writes_recased :
    ∃ context, ofTokens ["Foo=1", "q=a=b", "FOO="] = .ok context ∧
      context.get? "Q" = some (.string "a=b") ∧
      (context.replaceAll [("Q", .null)]).get? "fOO" = some (.string "") ∧
      (context.replaceAll [("Q", .null)]).get? "q" = some .null ∧
      (context.replaceAll [("Q", .null)]).size = 2 := by
  have hwritten : List.Forall₂ TokenWrites ["Foo=1", "q=a=b", "FOO="]
      [("Foo", .string "1"), ("q", .string "a=b"), ("FOO", .string "")] :=
    .cons ⟨"1", ⟨by decide, by decide, rfl⟩, rfl⟩
      (.cons ⟨"a=b", ⟨by decide, by decide, rfl⟩, rfl⟩
        (.cons ⟨"", ⟨by decide, by decide, rfl⟩, rfl⟩ .nil))
  obtain ⟨context, hcontext, hafter⟩ := (remembers_last_writes _).2.2 _ hwritten
  obtain ⟨hnone, -, -⟩ := hafter []
  obtain ⟨hvalue, hsize, -⟩ := hafter [("Q", .null)]
  refine ⟨context, hcontext, (hnone "Q").trans ?_, (hvalue "fOO").trans ?_,
    (hvalue "q").trans ?_, hsize.trans ?_⟩
  · rfl
  · rfl
  · rfl
  · rfl

end Context

end Rulebook
