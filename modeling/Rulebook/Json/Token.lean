import Rulebook.Json

/-!
# Tokens of JSON text

A text is cut into tokens character by character: a scanner remembers what it is
inside of, and every character moves it on or makes the text malformed. Numbers
and texts are checked here, their places in a value later.
-/

namespace Rulebook.Json

/-- A token of JSON text. -/
inductive Token where
  /-- A bracket, brace, colon or comma. -/
  | mark (c : Char)
  /-- A text, which may be a value or a name. -/
  | text (s : String)
  /-- A number, a truth value or null. -/
  | plain (value : Json)

/-- What the scanner is inside of. Characters already read are kept with the
last one first. -/
inductive Scan where
  /-- Between two tokens. -/
  | outside
  /-- In a number. -/
  | number (chars : List Char)
  /-- In a word. -/
  | word (chars : List Char)
  /-- In a text. -/
  | text (chars : List Char)
  /-- Behind the backslash of an escape. -/
  | escape (chars : List Char)
  /-- In the digits of a character number. `high` is the first half of a pair,
  if it has been read; `sum` is the number so far and `count` how many of its
  digits have been read. -/
  | code (chars : List Char) (high : Option Nat) (sum count : Nat)
  /-- Behind the first half of a pair. -/
  | pair (chars : List Char) (high : Nat)
  /-- Behind the backslash that follows the first half of a pair. -/
  | pairEscape (chars : List Char) (high : Nat)

namespace Scan

/-- The value of a hexadecimal digit. -/
def hexValue? (c : Char) : Option Nat :=
  if '0' ≤ c ∧ c ≤ '9' then some (c.toNat - 48)
  else if 'a' ≤ c ∧ c ≤ 'f' then some (c.toNat - 87)
  else if 'A' ≤ c ∧ c ≤ 'F' then some (c.toNat - 55)
  else none

/-- The character that a letter stands for behind a backslash. -/
def escapedBy? (c : Char) : Option Char :=
  if c = '"' ∨ c = '\\' ∨ c = '/' then some c
  else if c = 'b' then some '\x08'
  else if c = 'f' then some '\x0c'
  else if c = 'n' then some '\n'
  else if c = 'r' then some '\r'
  else if c = 't' then some '\t'
  else none

/-- Whether a character can stand in a number. -/
def isNumberChar (c : Char) : Bool :=
  c.isDigit || c == '-' || c == '+' || c == '.' || c == 'e' || c == 'E'

/-- The value that a word names. -/
def word? (chars : List Char) : Option Json :=
  if chars = "null".toList then some .null
  else if chars = "true".toList then some (.bool true)
  else if chars = "false".toList then some (.bool false)
  else none

/-- The token that ends where the scanner stands; a text must be closed before. -/
def close? : Scan → Option (List Token)
  | .outside => some []
  | .number chars => (Number.ofChars? chars.reverse).map fun n => [.plain (.number n)]
  | .word chars => (word? chars.reverse).map fun value => [.plain value]
  | _ => none

/-- A character between two tokens begins one, is one, or separates them. -/
def begin? (c : Char) : Option (Scan × List Token) :=
  if c = ' ' ∨ c = '\t' ∨ c = '\n' ∨ c = '\r' then some (.outside, [])
  else if c = '"' then some (.text [], [])
  else if c = '[' ∨ c = ']' ∨ c = '\x7b' ∨ c = '\x7d' ∨ c = ':' ∨ c = ',' then
    some (.outside, [.mark c])
  else if c = '-' ∨ c.isDigit then some (.number [c], [])
  else if c.isLower then some (.word [c], [])
  else none

/-- The scanner behind the last digit of a character number. The numbers of the
two halves of a pair make one character; half a pair alone is malformed. -/
def closeCode? (chars : List Char) (high : Option Nat) (sum : Nat) : Option Scan :=
  match high with
  | none =>
    if 0xDC00 ≤ sum ∧ sum ≤ 0xDFFF then none
    else if 0xD800 ≤ sum ∧ sum ≤ 0xDBFF then some (.pair chars sum)
    else some (.text (Char.ofNat sum :: chars))
  | some high =>
    if 0xDC00 ≤ sum ∧ sum ≤ 0xDFFF then
      some (.text (Char.ofNat (0x10000 + (high - 0xD800) * 0x400 + (sum - 0xDC00)) :: chars))
    else none

/-- The scanner after one more character, and the tokens that have ended. -/
def step? (scan : Scan) (c : Char) : Option (Scan × List Token) :=
  match scan with
  | .outside => begin? c
  | .number chars =>
    if isNumberChar c then some (.number (c :: chars), [])
    else do
      let ended ← close? (.number chars)
      let (next, tokens) ← begin? c
      return (next, ended ++ tokens)
  | .word chars =>
    if c.isLower then some (.word (c :: chars), [])
    else do
      let ended ← close? (.word chars)
      let (next, tokens) ← begin? c
      return (next, ended ++ tokens)
  | .text chars =>
    if c = '"' then some (.outside, [.text (String.ofList chars.reverse)])
    else if c = '\\' then some (.escape chars, [])
    else if c.toNat < 32 then none
    else some (.text (c :: chars), [])
  | .escape chars =>
    if c = 'u' then some (.code chars none 0 0, [])
    else (escapedBy? c).map fun char => (.text (char :: chars), [])
  | .code chars high sum count => do
    let digit ← hexValue? c
    let sum := 16 * sum + digit
    if count = 3 then (closeCode? chars high sum).map fun next => (next, [])
    else some (.code chars high sum (count + 1), [])
  | .pair chars high => if c = '\\' then some (.pairEscape chars high, []) else none
  | .pairEscape chars high => if c = 'u' then some (.code chars (some high) 0 0, []) else none

end Scan

/-- The tokens of a text, unless one of them is malformed. -/
def tokens? (text : String) : Option (List Token) := do
  let (scan, tokens) ← text.toList.foldlM
    (fun (state : Scan × List Token) c => do
      let (next, ended) ← state.1.step? c
      return (next, ended.reverse ++ state.2))
    (Scan.outside, [])
  let ended ← scan.close?
  return (ended.reverse ++ tokens).reverse

end Rulebook.Json
