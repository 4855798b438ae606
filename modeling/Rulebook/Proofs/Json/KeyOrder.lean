import Rulebook.Json.Reader
import Rulebook.Proofs.Success

/-!
# Objects in key order

What the reader gives has the fields of every object, however deep, in increasing
order of their names, and so no name twice. A walk over the fields of a document
is therefore a walk in key order.
-/

namespace Rulebook

namespace Json

/-- The fields of every object in a value are in increasing order of their
names. -/
inductive InKeyOrder : Json → Prop where
  /-- Null has no fields. -/
  | null : InKeyOrder .null
  /-- A truth value has no fields. -/
  | bool (b : Bool) : InKeyOrder (.bool b)
  /-- A number has no fields. -/
  | number (n : Number) : InKeyOrder (.number n)
  /-- A text has no fields. -/
  | string (s : String) : InKeyOrder (.string s)
  /-- An array has the fields of its items. -/
  | array {items : List Json} (hitems : ∀ item ∈ items, InKeyOrder item) :
      InKeyOrder (.array items)
  /-- An object has its own fields and those of their values. -/
  | object {fields : List (String × Json)} (hordered : Dict.Ordered fields)
      (hfields : ∀ field ∈ fields, InKeyOrder field.2) : InKeyOrder (.object fields)

theorem InKeyOrder.item {items : List Json} (h : InKeyOrder (.array items)) {item : Json}
    (hmem : item ∈ items) : InKeyOrder item := by
  cases h with
  | array hitems => exact hitems item hmem

theorem InKeyOrder.ordered {fields : List (String × Json)} (h : InKeyOrder (.object fields)) :
    Dict.Ordered fields := by
  cases h with
  | object hordered _ => exact hordered

theorem InKeyOrder.field {fields : List (String × Json)} (h : InKeyOrder (.object fields))
    {field : String × Json} (hmem : field ∈ fields) : InKeyOrder field.2 := by
  cases h with
  | object _ hfields => exact hfields field hmem

/-- One more field keeps an object in key order. -/
theorem InKeyOrder.insert {fields : Dict Json} {value : Json} (h : InKeyOrder (.object fields))
    (hvalue : InKeyOrder value) (name : String) :
    InKeyOrder (.object (Dict.insert name value fields)) := by
  refine .object (Dict.ordered_insert name value h.ordered) fun field hmem => ?_
  rcases Dict.mem_insert hmem with rfl | hold
  · exact hvalue
  · exact h.field hold

/-- A token that is a value has it in key order. -/
def Token.InKeyOrder : Token → Prop
  | .plain value => value.InKeyOrder
  | _ => True

namespace Scan

/-- A word names a value without fields. -/
theorem inKeyOrder_of_word? {chars : List Char} {value : Json} (h : word? chars = some value) :
    value.InKeyOrder := by
  unfold word? at h
  split at h
  · cases h
    exact .null
  · split at h
    · cases h
      exact .bool true
    · split at h
      · cases h
        exact .bool false
      · cases h

/-- Whatever ends when the scanner stops is in key order. -/
theorem inKeyOrder_of_close? {scan : Scan} {tokens : List Token} (h : scan.close? = some tokens) :
    ∀ token ∈ tokens, token.InKeyOrder := by
  cases scan with
  | outside =>
    cases h
    exact fun token hmem => absurd hmem List.not_mem_nil
  | number chars =>
    obtain ⟨n, -, rfl⟩ := Option.map_eq_some_iff.mp h
    intro token hmem
    rw [List.mem_singleton.mp hmem]
    exact .number n
  | word chars =>
    obtain ⟨value, hvalue, rfl⟩ := Option.map_eq_some_iff.mp h
    intro token hmem
    rw [List.mem_singleton.mp hmem]
    exact inKeyOrder_of_word? hvalue
  | text _ | escape _ | code _ _ _ _ | pair _ _ | pairEscape _ _ => cases h

/-- A character between two tokens is at most a mark. -/
theorem inKeyOrder_of_begin? {c : Char} {next : Scan} {tokens : List Token}
    (h : begin? c = some (next, tokens)) : ∀ token ∈ tokens, token.InKeyOrder := by
  have hmark : tokens = [] ∨ tokens = [.mark c] := by
    unfold begin? at h
    split_ifs at h <;> cases h <;> simp
  rcases hmark with rfl | rfl
  · exact fun token hmem => absurd hmem List.not_mem_nil
  · intro token hmem
    rw [List.mem_singleton.mp hmem]
    trivial

/-- A number or word ends where another token begins. -/
theorem inKeyOrder_of_close?_begin? {scan next : Scan} {c : Char} {tokens : List Token}
    (h : (do
      let ended ← close? scan
      let (next, begun) ← begin? c
      return (next, ended ++ begun)) = some (next, tokens)) :
    ∀ token ∈ tokens, token.InKeyOrder := by
  obtain ⟨ended, hended, h⟩ := Option.bind_eq_some_iff.mp h
  obtain ⟨⟨after, begun⟩, hbegun, h⟩ := Option.bind_eq_some_iff.mp h
  cases h
  intro token hmem
  rcases List.mem_append.mp hmem with hmem | hmem
  · exact inKeyOrder_of_close? hended token hmem
  · exact inKeyOrder_of_begin? hbegun token hmem

/-- The tokens that one more character ends are in key order. -/
theorem inKeyOrder_of_step? {scan next : Scan} {c : Char} {tokens : List Token}
    (h : scan.step? c = some (next, tokens)) : ∀ token ∈ tokens, token.InKeyOrder := by
  have hnone : tokens = [] → ∀ token ∈ tokens, token.InKeyOrder := by
    rintro rfl token hmem
    exact absurd hmem List.not_mem_nil
  cases scan with
  | outside => exact inKeyOrder_of_begin? h
  | number chars =>
    simp only [step?] at h
    split_ifs at h
    · cases h
      exact hnone rfl
    · exact inKeyOrder_of_close?_begin? h
  | word chars =>
    simp only [step?] at h
    split_ifs at h
    · cases h
      exact hnone rfl
    · exact inKeyOrder_of_close?_begin? h
  | text chars =>
    simp only [step?] at h
    split_ifs at h
    · cases h
      intro token hmem
      rw [List.mem_singleton.mp hmem]
      trivial
    · cases h
      exact hnone rfl
    · cases h
      exact hnone rfl
  | escape chars =>
    simp only [step?] at h
    split_ifs at h
    · cases h
      exact hnone rfl
    · obtain ⟨char, -, hchar⟩ := Option.map_eq_some_iff.mp h
      cases hchar
      exact hnone rfl
  | code chars high sum count =>
    obtain ⟨digit, -, h⟩ := Option.bind_eq_some_iff.mp h
    split_ifs at h
    · obtain ⟨after, -, hafter⟩ := Option.map_eq_some_iff.mp h
      cases hafter
      exact hnone rfl
    · cases h
      exact hnone rfl
  | pair chars high =>
    simp only [step?] at h
    split_ifs at h
    cases h
    exact hnone rfl
  | pairEscape chars high =>
    simp only [step?] at h
    split_ifs at h
    cases h
    exact hnone rfl

end Scan

/-- Every token of a text is in key order. -/
theorem inKeyOrder_of_tokens? {text : String} {tokens : List Token}
    (h : tokens? text = some tokens) : ∀ token ∈ tokens, token.InKeyOrder := by
  obtain ⟨⟨scan, reversed⟩, hrun, h⟩ := Option.bind_eq_some_iff.mp h
  obtain ⟨ended, hended, h⟩ := Option.bind_eq_some_iff.mp h
  cases h
  have hreversed : ∀ token ∈ reversed, token.InKeyOrder := by
    refine Option.foldlM_invariant (fun state : Scan × List Token =>
      ∀ token ∈ state.2, token.InKeyOrder) ?_ (fun token hmem => absurd hmem List.not_mem_nil) hrun
    intro state c after _ hstate hafter
    obtain ⟨⟨next, more⟩, hmore, hafter⟩ := Option.bind_eq_some_iff.mp hafter
    cases hafter
    intro token hmem
    rcases List.mem_append.mp hmem with hmem | hmem
    · exact Scan.inKeyOrder_of_step? hmore token (List.mem_reverse.mp hmem)
    · exact hstate token hmem
  intro token hmem
  rcases List.mem_append.mp (List.mem_reverse.mp hmem) with hmem | hmem
  · exact Scan.inKeyOrder_of_close? hended token (List.mem_reverse.mp hmem)
  · exact hreversed token hmem

/-- What has been read of an array or object still open is in key order. -/
def Enclosing.InKeyOrder : Enclosing → Prop
  | .array items => Json.InKeyOrder (.array items)
  | .object fields _ => Json.InKeyOrder (.object fields)

/-- What has been read where the reader stands is in key order. -/
def Place.InKeyOrder : Place → Prop
  | .value | .firstItem => True
  | .name fields _ | .colon fields _ => Json.InKeyOrder (.object fields)
  | .ended found => Json.InKeyOrder found

namespace Reader

/-- All that the reader holds is in key order. -/
def InKeyOrder (reader : Reader) : Prop :=
  reader.place.InKeyOrder ∧ ∀ enclosing ∈ reader.around, enclosing.InKeyOrder

/-- A value that begins keeps what the reader holds in key order. -/
theorem inKeyOrder_of_open? {around : List Enclosing} {token : Token} {next : Reader}
    (haround : ∀ enclosing ∈ around, enclosing.InKeyOrder) (htoken : token.InKeyOrder)
    (h : open? around token = some next) : next.InKeyOrder := by
  have hempty : Json.InKeyOrder (.object []) :=
    .object List.Pairwise.nil fun field hmem => absurd hmem List.not_mem_nil
  cases token with
  | plain value =>
    cases h
    exact ⟨htoken, haround⟩
  | text s =>
    cases h
    exact ⟨.string s, haround⟩
  | mark c =>
    simp only [open?] at h
    split_ifs at h
    · cases h
      refine ⟨trivial, List.forall_mem_cons.mpr ⟨?_, haround⟩⟩
      exact .array fun item hmem => absurd hmem List.not_mem_nil
    · cases h
      exact ⟨hempty, haround⟩

/-- A value that has ended keeps what the reader holds in key order. -/
theorem inKeyOrder_of_continue? {value : Json} {around : List Enclosing} {token : Token}
    {next : Reader} (hvalue : value.InKeyOrder)
    (haround : ∀ enclosing ∈ around, enclosing.InKeyOrder)
    (h : continue? value around token = some next) : next.InKeyOrder := by
  unfold continue? at h
  split at h
  · next items outer c =>
    obtain ⟨hitems, houter⟩ := List.forall_mem_cons.mp haround
    have hall : ∀ item ∈ value :: items, item.InKeyOrder :=
      List.forall_mem_cons.mpr ⟨hvalue, fun item hmem => InKeyOrder.item hitems hmem⟩
    split_ifs at h
    · cases h
      exact ⟨trivial, List.forall_mem_cons.mpr ⟨.array hall, houter⟩⟩
    · cases h
      exact ⟨.array fun item hmem => hall item (List.mem_reverse.mp hmem), houter⟩
  · next fields name outer c =>
    obtain ⟨hfields, houter⟩ := List.forall_mem_cons.mp haround
    split_ifs at h
    · cases h
      exact ⟨InKeyOrder.insert hfields hvalue name, houter⟩
    · cases h
      exact ⟨InKeyOrder.insert hfields hvalue name, houter⟩
  · cases h

/-- One more token keeps what the reader holds in key order. -/
theorem inKeyOrder_of_step? {reader next : Reader} {token : Token} (hreader : reader.InKeyOrder)
    (htoken : token.InKeyOrder) (h : reader.step? token = some next) : next.InKeyOrder := by
  obtain ⟨hplace, haround⟩ := hreader
  unfold step? at h
  split at h
  · exact inKeyOrder_of_open? haround htoken h
  · split at h
    · next outer heq =>
      cases h
      rw [heq] at haround
      refine ⟨.array fun item hmem => absurd hmem List.not_mem_nil, ?_⟩
      exact (List.forall_mem_cons.mp haround).2
    · cases h
  · exact inKeyOrder_of_open? haround htoken h
  · next fields _ name heq =>
    cases h
    rw [heq] at hplace
    exact ⟨hplace, haround⟩
  · next fields heq =>
    cases h
    rw [heq] at hplace
    exact ⟨hplace, haround⟩
  · next fields name heq =>
    cases h
    rw [heq] at hplace
    exact ⟨trivial, List.forall_mem_cons.mpr ⟨hplace, haround⟩⟩
  · next value _ heq =>
    rw [heq] at hplace
    exact inKeyOrder_of_continue? hplace haround h
  · cases h

end Reader

/-- A value read from a text is in key order. -/
theorem inKeyOrder_of_read? {text : String} {value : Json} (h : read? text = some value) :
    value.InKeyOrder := by
  obtain ⟨tokens, htokens, h⟩ := Option.bind_eq_some_iff.mp h
  obtain ⟨final, hrun, h⟩ := Option.bind_eq_some_iff.mp h
  have hstart : Reader.InKeyOrder ⟨.value, []⟩ :=
    ⟨trivial, fun enclosing hmem => absurd hmem List.not_mem_nil⟩
  have hfinal : final.InKeyOrder := by
    refine Option.foldlM_invariant Reader.InKeyOrder ?_ hstart hrun
    intro reader token next hmem hreader hnext
    exact Reader.inKeyOrder_of_step? hreader (inKeyOrder_of_tokens? htokens token hmem) hnext
  split at h
  · next ended heq _ =>
    cases h
    have hplace := hfinal.1
    rw [heq] at hplace
    exact hplace
  · cases h

end Json

end Rulebook
