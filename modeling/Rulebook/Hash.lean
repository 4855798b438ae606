/-!
# Digests and buckets

Owners are assigned to buckets by the digest of a text. The digest function is a
parameter of evaluation; the first half of a digest decides the bucket.
-/

namespace Rulebook

/-- A digest of 160 bits, as five words with the first byte of each word in its
high bits. -/
structure Digest where
  /-- Bytes 0 to 3. -/
  w0 : UInt32
  /-- Bytes 4 to 7. -/
  w1 : UInt32
  /-- Bytes 8 to 11. -/
  w2 : UInt32
  /-- Bytes 12 to 15. -/
  w3 : UInt32
  /-- Bytes 16 to 19. -/
  w4 : UInt32
deriving DecidableEq, Repr, Inhabited

/-- A function from bytes to digests. -/
abbrev Hasher := List UInt8 → Digest

/-- The four bytes of a word, the high one first. -/
def wordBytes (w : UInt32) : List UInt8 :=
  [(w >>> 24).toUInt8, (w >>> 16).toUInt8, (w >>> 8).toUInt8, w.toUInt8]

/-- The word of four bytes, the high one first. -/
def wordOfBytes (a b c d : UInt8) : UInt32 :=
  (a.toUInt32 <<< 24) ||| (b.toUInt32 <<< 16) ||| (c.toUInt32 <<< 8) ||| d.toUInt32

namespace Digest

/-- The twenty bytes of a digest. -/
def bytes (digest : Digest) : List UInt8 :=
  wordBytes digest.w0 ++ wordBytes digest.w1 ++ wordBytes digest.w2 ++
    wordBytes digest.w3 ++ wordBytes digest.w4

/-- The digest of exactly twenty bytes. -/
def ofBytes? : List UInt8 → Option Digest
  | [a0, b0, c0, d0, a1, b1, c1, d1, a2, b2, c2, d2, a3, b3, c3, d3, a4, b4, c4, d4] =>
    some ⟨wordOfBytes a0 b0 c0 d0, wordOfBytes a1 b1 c1 d1, wordOfBytes a2 b2 c2 d2,
      wordOfBytes a3 b3 c3 d3, wordOfBytes a4 b4 c4 d4⟩
  | _ => none

/-- The bucket number: the first eight bytes, the low one first. -/
def bucket (digest : Digest) : UInt64 :=
  (wordBytes digest.w0 ++ wordBytes digest.w1).foldr
    (fun byte number => number * 256 + byte.toUInt64) 0

end Digest

/-- The bytes of a text. -/
def textBytes (text : String) : List UInt8 := text.toUTF8.data.toList

end Rulebook
