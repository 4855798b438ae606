import Rulebook.Json.Token

/-!
# Reading JSON text

A value is built token by token. The reader remembers the arrays and objects that
are still open, the innermost first, and what may come next. A name that is
repeated in an object keeps its last value, and arrays and objects nested deeper
than `maxDepth` are refused like malformed text.
-/

namespace Rulebook.Json

/-- How deep arrays and objects may be nested. -/
def maxDepth : Nat := 127

/-- An array or object around the value being read. -/
inductive Enclosing where
  /-- An array with its items so far, the last one first. -/
  | array (items : List Json)
  /-- An object with its fields so far and the name of the value being read. -/
  | object (fields : Dict Json) (name : String)

/-- What may come next. -/
inductive Place where
  /-- A value must come. -/
  | value
  /-- A value or the end of the array just opened. -/
  | firstItem
  /-- A name, or for the object just opened its end. -/
  | name (fields : Dict Json) (mayEnd : Bool)
  /-- The colon behind a name. -/
  | colon (fields : Dict Json) (name : String)
  /-- A value has just ended. -/
  | ended (value : Json)

/-- The state of the reader. -/
structure Reader where
  /-- What may come next. -/
  place : Place
  /-- The arrays and objects around it, the innermost first. -/
  around : List Enclosing

namespace Reader

/-- A value begins: it is complete at once, or an array or object opens. -/
def open? (around : List Enclosing) : Token → Option Reader
  | .plain value => some ⟨.ended value, around⟩
  | .text s => some ⟨.ended (.string s), around⟩
  | .mark c =>
    if around.length < maxDepth then
      if c = '[' then some ⟨.firstItem, .array [] :: around⟩
      else if c = '\x7b' then some ⟨.name [] true, around⟩
      else none
    else none

/-- A value has ended: the next item or field follows, or the array or object
around it ends. -/
def continue? (value : Json) : List Enclosing → Token → Option Reader
  | .array items :: around, .mark c =>
    if c = ',' then some ⟨.value, .array (value :: items) :: around⟩
    else if c = ']' then some ⟨.ended (.array (value :: items).reverse), around⟩
    else none
  | .object fields name :: around, .mark c =>
    if c = ',' then some ⟨.name (Dict.insert name value fields) false, around⟩
    else if c = '\x7d' then some ⟨.ended (.object (Dict.insert name value fields)), around⟩
    else none
  | _, _ => none

/-- The reader after one more token. -/
def step? (reader : Reader) (token : Token) : Option Reader :=
  match reader.place, token with
  | .value, token => open? reader.around token
  | .firstItem, .mark ']' =>
    match reader.around with
    | .array [] :: around => some ⟨.ended (.array []), around⟩
    | _ => none
  | .firstItem, token => open? reader.around token
  | .name fields _, .text name => some ⟨.colon fields name, reader.around⟩
  | .name fields true, .mark '\x7d' => some ⟨.ended (.object fields), reader.around⟩
  | .colon fields name, .mark ':' => some ⟨.value, .object fields name :: reader.around⟩
  | .ended value, token => continue? value reader.around token
  | _, _ => none

end Reader

/-- The value that a text writes, if it is well-formed. -/
def read? (text : String) : Option Json := do
  let tokens ← tokens? text
  let reader ← tokens.foldlM Reader.step? ⟨.value, []⟩
  match reader.place, reader.around with
  | .ended value, [] => some value
  | _, _ => none

end Rulebook.Json
