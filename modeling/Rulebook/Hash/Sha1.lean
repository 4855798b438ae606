import Rulebook.Hash

/-!
# SHA-1

The digest function that assigns owners to buckets unless another one is given:
the Secure Hash Algorithm with 160 bits, computed on lists of words.
-/

namespace Rulebook.Sha1

/-- A word turned to the left. -/
def rotate (w : UInt32) (bits : UInt32) : UInt32 := (w <<< bits) ||| (w >>> (32 - bits))

/-- The digest before the first block. -/
def initial : Digest := ⟨0x67452301, 0xEFCDAB89, 0x98BADCFE, 0x10325476, 0xC3D2E1F0⟩

/-- The bytes with a one bit, zeros and their length in bits behind them, so that
they fill blocks of 64 bytes. -/
def pad (bytes : List UInt8) : List UInt8 :=
  let zeros : List UInt8 := List.replicate ((119 - bytes.length % 64) % 64) 0
  let bits := UInt64.ofNat (8 * bytes.length)
  bytes ++ 0x80 :: zeros ++ wordBytes (bits >>> 32).toUInt32 ++ wordBytes bits.toUInt32

/-- The words of bytes that fill whole words. -/
def words : List UInt8 → List UInt32
  | a :: b :: c :: d :: rest => wordOfBytes a b c d :: words rest
  | _ => []

/-- As many further words as are asked for, put in front of the words of a block,
which are given with the last one first. -/
def extend : Nat → List UInt32 → List UInt32
  | 0, schedule => schedule
  | count + 1, schedule =>
    let word := schedule.getD 2 0 ^^^ schedule.getD 7 0 ^^^ schedule.getD 13 0 ^^^
      schedule.getD 15 0
    extend count (rotate word 1 :: schedule)

/-- The eighty words that a block of sixteen is stretched to. -/
def schedule (block : List UInt32) : List UInt32 := (extend 64 block.reverse).reverse

/-- The mixed words and the constant of a step. -/
def mixed (step : Nat) (b c d : UInt32) : UInt32 :=
  if step < 20 then ((b &&& c) ||| (~~~b &&& d)) + 0x5A827999
  else if step < 40 then (b ^^^ c ^^^ d) + 0x6ED9EBA1
  else if step < 60 then ((b &&& c) ||| (b &&& d) ||| (c &&& d)) + 0x8F1BBCDC
  else (b ^^^ c ^^^ d) + 0xCA62C1D6

/-- The steps of a block from a given one on, one for every remaining word. -/
def rounds (step : Nat) (s : Digest) : List UInt32 → Digest
  | [] => s
  | word :: rest =>
    let next := rotate s.w0 5 + mixed step s.w1 s.w2 s.w3 + s.w4 + word
    rounds (step + 1) ⟨next, s.w0, rotate s.w1 30, s.w2, s.w3⟩ rest

/-- The digest after a further block. -/
def compress (state : Digest) (block : List UInt32) : Digest :=
  let mixed := rounds 0 state (schedule block)
  ⟨state.w0 + mixed.w0, state.w1 + mixed.w1, state.w2 + mixed.w2, state.w3 + mixed.w3,
    state.w4 + mixed.w4⟩

/-- The digest after as many blocks of sixteen words as are asked for. -/
def absorb : Nat → Digest → List UInt32 → Digest
  | 0, state, _ => state
  | count + 1, state, words => absorb count (compress state (words.take 16)) (words.drop 16)

/-- The SHA-1 digest of bytes. -/
def hash (bytes : List UInt8) : Digest :=
  let padded := words (pad bytes)
  absorb (padded.length / 16) initial padded

end Rulebook.Sha1
