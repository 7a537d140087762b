/-!
# A short digest of a text

Form keys contain symbol names in digested form.  The digest is BLAKE2s over the UTF-8 bytes of
the text with a four-byte result, written as eight hexadecimal digits.

## Main definitions

* `Digest.compress` : one step of the hash over a block of sixteen words.
* `shortDigest` : the digest of a text.
-/

namespace GrammarForm.Digest

/-- The initial chaining words. -/
def start : List UInt32 :=
  [0x6a09e667, 0xbb67ae85, 0x3c6ef372, 0xa54ff53a, 0x510e527f, 0x9b05688c, 0x1f83d9ab, 0x5be0cd19]

/-- The order in which each of the ten rounds reads the words of a block. -/
def schedule : List (List Nat) :=
  [[0, 1, 2, 3, 4, 5, 6, 7, 8, 9, 10, 11, 12, 13, 14, 15],
   [14, 10, 4, 8, 9, 15, 13, 6, 1, 12, 0, 2, 11, 7, 5, 3],
   [11, 8, 12, 0, 5, 2, 15, 13, 10, 14, 3, 6, 7, 1, 9, 4],
   [7, 9, 3, 1, 13, 12, 11, 14, 2, 6, 5, 10, 4, 0, 15, 8],
   [9, 0, 5, 7, 2, 4, 10, 15, 14, 1, 11, 12, 6, 8, 3, 13],
   [2, 12, 6, 10, 0, 11, 8, 3, 4, 13, 7, 5, 15, 14, 1, 9],
   [12, 5, 1, 15, 14, 13, 4, 10, 0, 7, 6, 3, 9, 2, 8, 11],
   [13, 11, 7, 14, 12, 1, 3, 9, 5, 0, 15, 4, 8, 6, 2, 10],
   [6, 15, 14, 9, 11, 3, 0, 8, 12, 2, 13, 7, 1, 4, 10, 5],
   [10, 2, 8, 4, 7, 6, 1, 5, 15, 11, 9, 14, 3, 12, 13, 0]]

/-- The places of the four words that each of the eight mixing steps of a round works on. -/
def lanes : List (Nat × Nat × Nat × Nat) :=
  [(0, 4, 8, 12), (1, 5, 9, 13), (2, 6, 10, 14), (3, 7, 11, 15),
   (0, 5, 10, 15), (1, 6, 11, 12), (2, 7, 8, 13), (3, 4, 9, 14)]

/-- A word rotated right by `r` bits. -/
def rotateRight (x : UInt32) (r : UInt32) : UInt32 :=
  (x >>> r) ||| (x <<< (32 - r))

/-- The word at a place of an array; zero past its end. -/
def word (v : Array UInt32) (i : Nat) : UInt32 :=
  (v[i]?).getD 0

/-- One mixing step on the working words `v` with two message words. -/
def mix (v : Array UInt32) (lane : Nat × Nat × Nat × Nat) (x y : UInt32) : Array UInt32 :=
  let (i, j, k, l) := lane
  let a := word v i + word v j + x
  let d := rotateRight (word v l ^^^ a) 16
  let c := word v k + d
  let b := rotateRight (word v j ^^^ c) 12
  let a := a + b + y
  let d := rotateRight (d ^^^ a) 8
  let c := c + d
  let b := rotateRight (b ^^^ c) 7
  (((v.setIfInBounds i a).setIfInBounds j b).setIfInBounds k c).setIfInBounds l d

/-- The mixing steps of a round, each with the next two message words of its order. -/
def mixAll (block v : Array UInt32) :
    List (Nat × Nat × Nat × Nat) → List Nat → Array UInt32
  | lane :: rest, i :: j :: order =>
    mixAll block (mix v lane (word block i) (word block j)) rest order
  | _, _ => v

/-- The chaining words after one block.  `count` is the number of bytes hashed so far, and
`final` marks the last block. -/
def compress (h block : Array UInt32) (count : Nat) (final : Bool) : Array UInt32 :=
  let low := UInt32.ofNat count
  let high := UInt32.ofNat (count / 4294967296)
  let tail := start.toArray
  let tail := tail.setIfInBounds 4 (word tail 4 ^^^ low)
  let tail := tail.setIfInBounds 5 (word tail 5 ^^^ high)
  let tail := if final then tail.setIfInBounds 6 (word tail 6 ^^^ 0xffffffff) else tail
  let v := schedule.foldl (fun v order => mixAll block v lanes order) (h ++ tail)
  ((List.range 8).map fun i => word h i ^^^ word v i ^^^ word v (i + 8)).toArray

/-- Little-endian words of a list of bytes; missing bytes of the last word are zero. -/
def littleEndian : List UInt8 → List UInt32
  | [] => []
  | [a] => [a.toUInt32]
  | [a, b] => [a.toUInt32 ||| (b.toUInt32 <<< 8)]
  | [a, b, c] => [a.toUInt32 ||| (b.toUInt32 <<< 8) ||| (c.toUInt32 <<< 16)]
  | a :: b :: c :: d :: rest =>
    (a.toUInt32 ||| (b.toUInt32 <<< 8) ||| (c.toUInt32 <<< 16) ||| (d.toUInt32 <<< 24)) ::
      littleEndian rest

/-- Sixteen words holding at most 64 bytes, filled up with zeros. -/
def blockOf (bytes : List UInt8) : Array UInt32 :=
  let words := littleEndian bytes
  (words ++ List.replicate (16 - words.length) 0).toArray

/-- The number of bytes in a block. -/
def blockSize : Nat := 64

/-- The chaining words after the remaining bytes, of which `count` were hashed before.  The first
argument bounds the number of blocks; one more than the number of bytes is always enough. -/
def absorb : Nat → Array UInt32 → Nat → List UInt8 → Array UInt32
  | 0, h, _, _ => h
  | n + 1, h, count, bytes =>
    if bytes.length ≤ blockSize then compress h (blockOf bytes) (count + bytes.length) true
    else
      absorb n (compress h (blockOf (bytes.take blockSize)) (count + blockSize) false)
        (count + blockSize) (bytes.drop blockSize)

/-- The digit of a number below sixteen. -/
def hexDigit (n : Nat) : Char :=
  Char.ofNat (if n < 10 then 48 + n else 87 + n)

/-- The two hexadecimal digits of a byte. -/
def hexByte (b : UInt8) : List Char :=
  [hexDigit (b.toNat / 16), hexDigit (b.toNat % 16)]

/-- The bytes of a word, the least significant one first. -/
def wordBytes (w : UInt32) : List UInt8 :=
  [w.toUInt8, (w >>> 8).toUInt8, (w >>> 16).toUInt8, (w >>> 24).toUInt8]

/-- The first chaining word, into which the length of the result (four bytes) is mixed. -/
def keyed : Array UInt32 :=
  start.toArray.setIfInBounds 0 (word start.toArray 0 ^^^ 0x01010004)

/-- The first word of the hash of a list of bytes. -/
def firstWord (bytes : List UInt8) : UInt32 :=
  word (absorb (bytes.length + 1) keyed 0 bytes) 0

/-- The hexadecimal text of a word, byte by byte. -/
def hexWord (w : UInt32) : String :=
  String.ofList ((wordBytes w).flatMap hexByte)

end GrammarForm.Digest

namespace GrammarForm

/-- The digest of a text: eight hexadecimal digits. -/
def shortDigest (s : String) : String :=
  Digest.hexWord (Digest.firstWord s.toUTF8.toList)

/-- A digest is always eight characters long. -/
theorem length_shortDigest (s : String) : (shortDigest s).length = 8 := by
  simp [shortDigest, Digest.hexWord, Digest.wordBytes, Digest.hexByte]

end GrammarForm
