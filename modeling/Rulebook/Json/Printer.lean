import Rulebook.Json

/-!
# JSON text of a value

The compact text: no blanks, fields in key order, and in texts only the
characters escaped that JSON does not allow there.
-/

namespace Rulebook.Json

/-- A digit of a number below sixteen. -/
def hexDigit (n : Nat) : Char := Nat.digitChar (n % 16)

/-- A character as it stands in a JSON text. -/
def escapedChar (c : Char) : List Char :=
  if c = '"' then ['\\', '"']
  else if c = '\\' then ['\\', '\\']
  else if c = '\x08' then ['\\', 'b']
  else if c = '\x0c' then ['\\', 'f']
  else if c = '\n' then ['\\', 'n']
  else if c = '\r' then ['\\', 'r']
  else if c = '\t' then ['\\', 't']
  else if c.toNat < 32 then ['\\', 'u', '0', '0', hexDigit (c.toNat / 16), hexDigit c.toNat]
  else [c]

/-- A text in its quotation marks. -/
def quote (s : String) : List Char := '"' :: (s.toList.flatMap escapedChar ++ ['"'])

mutual

/-- The characters of a value's text. -/
def toChars : Json → List Char
  | .null => "null".toList
  | .bool true => "true".toList
  | .bool false => "false".toList
  | .number n => n.text.toList
  | .string s => quote s
  | .array [] => "[]".toList
  | .array (item :: items) => '[' :: (toChars item ++ itemChars items)
  | .object [] => ['\x7b', '\x7d']
  | .object ((name, value) :: fields) =>
    '\x7b' :: (quote name ++ ':' :: (toChars value ++ fieldChars fields))

/-- The further items of an array and its end. -/
def itemChars : List Json → List Char
  | [] => [']']
  | item :: items => ',' :: (toChars item ++ itemChars items)

/-- The further fields of an object and its end. -/
def fieldChars : List (String × Json) → List Char
  | [] => ['\x7d']
  | (name, value) :: fields =>
    ',' :: (quote name ++ ':' :: (toChars value ++ fieldChars fields))

end

/-- The compact JSON text of a value. -/
def render (value : Json) : String := String.ofList (toChars value)

end Rulebook.Json
