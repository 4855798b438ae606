import Rulebook.Json

/-!
# Parts of a value

A value stands in another one as an item of an array, as the value of a field, or deeper.
What is smaller is a part, so a recursion over values may go on with items and fields.
-/

namespace Rulebook.Json

theorem sizeOf_item_lt {items : List Json} {item : Json} (h : item ∈ items) :
    sizeOf item < sizeOf (array items) := by
  have hlt := List.sizeOf_lt_of_mem h
  rw [array.sizeOf_spec]
  omega

theorem sizeOf_lt_of_field {fields : List (String × Json)} {key : String} {field : Json}
    (h : (key, field) ∈ fields) : sizeOf field < sizeOf fields := by
  have hlt := List.sizeOf_lt_of_mem h
  rw [Prod.mk.sizeOf_spec] at hlt
  omega

theorem sizeOf_field_lt {fields : List (String × Json)} {key : String} {field : Json}
    (h : (key, field) ∈ fields) : sizeOf field < sizeOf (object fields) := by
  have hlt := sizeOf_lt_of_field h
  rw [object.sizeOf_spec]
  omega

/-- A value stands in another one, at whatever depth, or is that value. -/
inductive PartOf (part : Json) : Json → Prop where
  /-- It is the value itself. -/
  | self : PartOf part part
  /-- It stands in an item. -/
  | item {items : List Json} {item : Json} (hmem : item ∈ items) (hpart : PartOf part item) :
      PartOf part (.array items)
  /-- It stands in a field. -/
  | field {fields : List (String × Json)} {key : String} {field : Json}
      (hmem : (key, field) ∈ fields) (hpart : PartOf part field) : PartOf part (.object fields)

/-- A field with this key and this value stands in a value. -/
def HasField (key : String) (field value : Json) : Prop :=
  ∃ fields, PartOf (.object fields) value ∧ (key, field) ∈ fields

/-- An item of this value stands in a value. -/
def HasItem (item value : Json) : Prop :=
  ∃ items, PartOf (.array items) value ∧ item ∈ items

variable {part value item field : Json} {key : String} {items : List Json}
  {fields : List (String × Json)}

theorem PartOf.trans {middle : Json} (hpart : PartOf part middle) (hmiddle : PartOf middle value) :
    PartOf part value := by
  induction hmiddle with
  | self => exact hpart
  | item hmem _ ih => exact .item hmem ih
  | field hmem _ ih => exact .field hmem ih

theorem HasField.of_part (h : HasField key field part) (hpart : PartOf part value) :
    HasField key field value := by
  obtain ⟨fields, hfields, hmem⟩ := h
  exact ⟨fields, hfields.trans hpart, hmem⟩

theorem HasItem.of_part (h : HasItem item part) (hpart : PartOf part value) :
    HasItem item value := by
  obtain ⟨items, hitems, hmem⟩ := h
  exact ⟨items, hitems.trans hpart, hmem⟩

/-- A field stands in an object as one of its own or in one of its own. -/
@[simp] theorem hasField_object :
    HasField key field (.object fields) ↔
      (key, field) ∈ fields ∨ ∃ entry ∈ fields, HasField key field entry.2 := by
  constructor
  · rintro ⟨inner, hpart, hmem⟩
    cases hpart with
    | self => exact Or.inl hmem
    | field hentry hpart => exact Or.inr ⟨_, hentry, inner, hpart, hmem⟩
  · rintro (hmem | ⟨entry, hentry, h⟩)
    · exact ⟨fields, .self, hmem⟩
    · exact h.of_part (.field hentry .self)

/-- A field stands in an array in one of its items. -/
@[simp] theorem hasField_array :
    HasField key field (.array items) ↔ ∃ inner ∈ items, HasField key field inner := by
  constructor
  · rintro ⟨fields, hpart, hmem⟩
    cases hpart with
    | item hinner hpart => exact ⟨_, hinner, fields, hpart, hmem⟩
  · rintro ⟨inner, hinner, h⟩
    exact h.of_part (.item hinner .self)

theorem not_hasField_of_isScalar (h : value.isScalar = true) : ¬ HasField key field value := by
  rintro ⟨fields, hpart, -⟩
  cases hpart with
  | self | item _ _ | field _ _ => cases h

/-- An item stands in an object in one of its fields. -/
@[simp] theorem hasItem_object :
    HasItem item (.object fields) ↔ ∃ entry ∈ fields, HasItem item entry.2 := by
  constructor
  · rintro ⟨items, hpart, hmem⟩
    cases hpart with
    | field hentry hpart => exact ⟨_, hentry, items, hpart, hmem⟩
  · rintro ⟨entry, hentry, h⟩
    exact h.of_part (.field hentry .self)

/-- An item stands in an array as one of its own or in one of its own. -/
@[simp] theorem hasItem_array :
    HasItem item (.array items) ↔ item ∈ items ∨ ∃ inner ∈ items, HasItem item inner := by
  constructor
  · rintro ⟨others, hpart, hmem⟩
    cases hpart with
    | self => exact Or.inl hmem
    | item hinner hpart => exact Or.inr ⟨_, hinner, others, hpart, hmem⟩
  · rintro (hmem | ⟨inner, hinner, h⟩)
    · exact ⟨items, .self, hmem⟩
    · exact h.of_part (.item hinner .self)

theorem not_hasItem_of_isScalar (h : value.isScalar = true) : ¬ HasItem item value := by
  rintro ⟨items, hpart, -⟩
  cases hpart with
  | self | item _ _ | field _ _ => cases h

end Rulebook.Json
