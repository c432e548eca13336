/-!
# A 64-bit digest

A fast, unkeyed hash over words and texts.  It names things: a type whose name had to be changed,
a table of aliases, a resolved pipeline.

* `Digest.word` — adds a word: the sum with the state, times an odd constant.
* `Digest.text` — adds a text: the condensed bytes of its UTF-8 form, then a closing `0xff`, so
  that a text and the one after it cannot run together.
* `Digest.finish` — the state rotated left by 26 bits.

Bytes are condensed (`condense`) to one word by multiplying halves and folding the 128-bit product
(`foldedProduct`).
-/

namespace ShaderWeave

/-- The running state of a digest. -/
structure Digest where
  state : UInt64
deriving DecidableEq, Repr

namespace Digest

/-- The empty digest. -/
def empty : Digest := ⟨0⟩

/-- Adds a word. -/
def word (digest : Digest) (x : UInt64) : Digest := ⟨(digest.state + x) * 0xf1357aea2e62a9c5⟩

/-- Adds a length or an index. -/
def size (digest : Digest) (n : Nat) : Digest := digest.word n.toUInt64

/-- The low half of the product, exclusive-or the high half. -/
def foldedProduct (x y : UInt64) : UInt64 :=
  let product := x.toNat * y.toNat
  product.toUInt64 ^^^ (product >>> 64).toUInt64

/-- Bytes as a word, the first byte lowest. -/
def littleEndian (bytes : List UInt8) : UInt64 :=
  bytes.foldr (fun byte high => (high <<< 8) ||| byte.toUInt64) 0

/-- Takes up `count` blocks of 16 bytes into a pair of words. -/
def absorb : Nat → List UInt8 → UInt64 × UInt64 → UInt64 × UInt64
  | 0, _, pair => pair
  | count + 1, bytes, (first, second) =>
    let low := littleEndian (bytes.take 8)
    let high := littleEndian ((bytes.drop 8).take 8)
    absorb count (bytes.drop 16)
      (second, foldedProduct (first ^^^ low) (0xa4093822299f31d0 ^^^ high))

/-- The two words that stand for a byte string.  Short strings are read from both ends, so their
halves may overlap; long ones are absorbed block by block, and the last 16 bytes close them. -/
def halves (bytes : List UInt8) : UInt64 × UInt64 :=
  let length := bytes.length
  let seed : UInt64 × UInt64 := (0x243f6a8885a308d3, 0x13198a2e03707344)
  let from_end (count : Nat) := bytes.drop (length - count)
  if length > 16 then
    let pair := absorb ((length - 1) / 16) bytes seed
    (pair.1 ^^^ littleEndian ((from_end 16).take 8), pair.2 ^^^ littleEndian (from_end 8))
  else if length ≥ 8 then
    (seed.1 ^^^ littleEndian (bytes.take 8), seed.2 ^^^ littleEndian (from_end 8))
  else if length ≥ 4 then
    (seed.1 ^^^ littleEndian (bytes.take 4), seed.2 ^^^ littleEndian (from_end 4))
  else
    match bytes[0]?, bytes[length / 2]?, bytes[length - 1]? with
    | some first, some middle, some last =>
      (seed.1 ^^^ first.toUInt64, seed.2 ^^^ ((last.toUInt64 <<< 8) ||| middle.toUInt64))
    | _, _, _ => seed

/-- A byte string as one word. -/
def condense (bytes : List UInt8) : UInt64 :=
  let pair := halves bytes
  foldedProduct pair.1 pair.2 ^^^ bytes.length.toUInt64

/-- Adds a text. -/
def text (digest : Digest) (t : String) : Digest :=
  (digest.word (condense t.toUTF8.toList)).word 0xff

/-- The digest of what was added. -/
def finish (digest : Digest) : UInt64 := (digest.state <<< 26) ||| (digest.state >>> 38)

end Digest

end ShaderWeave
