import Graft.Text

/-!
# Digests

The 64-bit XXH3 digest of a text's UTF-8 form, without a seed and with the standard secret.
-/
namespace Graft.Digest

/-- The standard secret. -/
def secret : ByteArray := ⟨#[
  0xb8, 0xfe, 0x6c, 0x39, 0x23, 0xa4, 0x4b, 0xbe, 0x7c, 0x01, 0x81, 0x2c, 0xf7, 0x21, 0xad, 0x1c,
  0xde, 0xd4, 0x6d, 0xe9, 0x83, 0x90, 0x97, 0xdb, 0x72, 0x40, 0xa4, 0xa4, 0xb7, 0xb3, 0x67, 0x1f,
  0xcb, 0x79, 0xe6, 0x4e, 0xcc, 0xc0, 0xe5, 0x78, 0x82, 0x5a, 0xd0, 0x7d, 0xcc, 0xff, 0x72, 0x21,
  0xb8, 0x08, 0x46, 0x74, 0xf7, 0x43, 0x24, 0x8e, 0xe0, 0x35, 0x90, 0xe6, 0x81, 0x3a, 0x26, 0x4c,
  0x3c, 0x28, 0x52, 0xbb, 0x91, 0xc3, 0x00, 0xcb, 0x88, 0xd0, 0x65, 0x8b, 0x1b, 0x53, 0x2e, 0xa3,
  0x71, 0x64, 0x48, 0x97, 0xa2, 0x0d, 0xf9, 0x4e, 0x38, 0x19, 0xef, 0x46, 0xa9, 0xde, 0xac, 0xd8,
  0xa8, 0xfa, 0x76, 0x3f, 0xe3, 0x9c, 0x34, 0x3f, 0xf9, 0xdc, 0xbb, 0xc7, 0xc7, 0x0b, 0x4f, 0x1d,
  0x8a, 0x51, 0xe0, 0x4b, 0xcd, 0xb4, 0x59, 0x31, 0xc8, 0x9f, 0x7e, 0xc9, 0xd9, 0x78, 0x73, 0x64,
  0xea, 0xc5, 0xac, 0x83, 0x34, 0xd3, 0xeb, 0xc3, 0xc5, 0x81, 0xa0, 0xff, 0xfa, 0x13, 0x63, 0xeb,
  0x17, 0x0d, 0xdd, 0x51, 0xb7, 0xf0, 0xda, 0x49, 0xd3, 0x16, 0x55, 0x26, 0x29, 0xd4, 0x68, 0x9e,
  0x2b, 0x16, 0xbe, 0x58, 0x7d, 0x47, 0xa1, 0xfc, 0x8f, 0xf8, 0xb8, 0xd1, 0x7a, 0xd0, 0x31, 0xce,
  0x45, 0xcb, 0x3a, 0x8f, 0x95, 0x16, 0x04, 0x28, 0xaf, 0xd7, 0xfb, 0xca, 0xbb, 0x4b, 0x40, 0x7e]⟩

def prime32a : UInt64 := 0x9e3779b1
def prime32b : UInt64 := 0x85ebca77
def prime32c : UInt64 := 0xc2b2ae3d
def prime64a : UInt64 := 0x9e3779b185ebca87
def prime64b : UInt64 := 0xc2b2ae3d27d4eb4f
def prime64c : UInt64 := 0x165667b19e3779f9
def prime64d : UInt64 := 0x85ebca77c2b2ae63
def prime64e : UInt64 := 0x27d4eb2f165667c5
def primeMixA : UInt64 := 0x165667919e3779f9
def primeMixB : UInt64 := 0x9fb21c651e98df25

/-- The byte at an index, zero past the end. -/
def byte (b : ByteArray) (i : Nat) : UInt64 :=
  if h : i < b.size then b[i].toUInt64 else 0

/-- `n` bytes from an index on as a little-endian word. -/
def word (b : ByteArray) (i : Nat) : Nat → UInt64
  | 0 => 0
  | n + 1 => byte b i ||| (word b (i + 1) n <<< 8)

def word32 (b : ByteArray) (i : Nat) : UInt64 := word b i 4

def word64 (b : ByteArray) (i : Nat) : UInt64 := word b i 8

def rotateLeft (x : UInt64) (n : UInt64) : UInt64 := (x <<< n) ||| (x >>> (64 - n))

/-- The bytes of a word in reverse order. -/
def swapBytes (x : UInt64) : UInt64 :=
  (List.range 8).foldl (fun acc i => (acc <<< 8) ||| ((x >>> (8 * i.toUInt64)) &&& 0xff)) 0

/-- The product of two words, its high half folded onto its low half. -/
def foldedProduct (x y : UInt64) : UInt64 :=
  let p := x.toNat * y.toNat
  (p % Nat.pow 2 64).toUInt64 ^^^ (p / Nat.pow 2 64).toUInt64

/-- Spreads every bit over the word, for very short and empty texts. -/
def spreadShort (h : UInt64) : UInt64 :=
  let h := (h ^^^ (h >>> 33)) * prime64b
  let h := (h ^^^ (h >>> 29)) * prime64c
  h ^^^ (h >>> 32)

/-- Spreads every bit over the word. -/
def spread (h : UInt64) : UInt64 :=
  let h := (h ^^^ (h >>> 37)) * primeMixA
  h ^^^ (h >>> 32)

/-- Sixteen bytes of input mixed with sixteen bytes of the secret. -/
def mix (b : ByteArray) (i j : Nat) : UInt64 :=
  foldedProduct (word64 b i ^^^ word64 secret j) (word64 b (i + 8) ^^^ word64 secret (j + 8))

def upTo3 (b : ByteArray) : UInt64 :=
  let n := b.size
  let combined := (byte b 0 <<< 16) ||| (byte b (n / 2) <<< 24) ||| byte b (n - 1) |||
    (n.toUInt64 <<< 8)
  spreadShort (combined ^^^ (word32 secret 0 ^^^ word32 secret 4))

def upTo8 (b : ByteArray) : UInt64 :=
  let n := b.size
  let input := word32 b (n - 4) + (word32 b 0 <<< 32)
  let h := input ^^^ (word64 secret 8 ^^^ word64 secret 16)
  let h := (h ^^^ rotateLeft h 49 ^^^ rotateLeft h 24) * primeMixB
  let h := (h ^^^ ((h >>> 35) + n.toUInt64)) * primeMixB
  h ^^^ (h >>> 28)

def upTo16 (b : ByteArray) : UInt64 :=
  let n := b.size
  let low := word64 b 0 ^^^ (word64 secret 24 ^^^ word64 secret 32)
  let high := word64 b (n - 8) ^^^ (word64 secret 40 ^^^ word64 secret 48)
  spread (n.toUInt64 + swapBytes low + high + foldedProduct low high)

/-- Pairs of chunks from both ends towards the middle. -/
def upTo128 (b : ByteArray) : UInt64 :=
  let n := b.size
  let pairs := (n - 1) / 32 + 1
  let acc := (List.range pairs).foldl
    (fun acc i => acc + mix b (16 * i) (32 * i) + mix b (n - 16 * (i + 1)) (32 * i + 16))
    (n.toUInt64 * prime64a)
  spread acc

def upTo240 (b : ByteArray) : UInt64 :=
  let n := b.size
  let acc := (List.range 8).foldl (fun acc i => acc + mix b (16 * i) (16 * i))
    (n.toUInt64 * prime64a)
  let acc := (List.range (n / 16 - 8)).foldl
    (fun acc i => acc + mix b (16 * (i + 8)) (16 * i + 3)) (spread acc)
  spread (acc + mix b (n - 16) 119)

/-- The eight running sums of a long text, before any input. -/
def lanes : List UInt64 :=
  [prime32c, prime64a, prime64b, prime64c, prime64d, prime32b, prime64e, prime32a]

/-- Adds the 64 bytes at `i`; lane `k` takes the product of its own word's halves and the word of
its neighbour. -/
def accumulate (b : ByteArray) (i j : Nat) (acc : List UInt64) : List UInt64 :=
  acc.mapIdx fun k (a : UInt64) =>
    let own := word64 b (i + 8 * k) ^^^ word64 secret (j + 8 * k)
    let neighbour := word64 b (i + 8 * (if k % 2 = 0 then k + 1 else k - 1))
    let low : UInt64 := own &&& 0xffffffff
    a + neighbour + low * (own >>> 32)

def scramble (acc : List UInt64) : List UInt64 :=
  acc.mapIdx fun k (a : UInt64) => (a ^^^ (a >>> 47) ^^^ word64 secret (128 + 8 * k)) * prime32a

def accumulateStripes (b : ByteArray) (i n : Nat) (acc : List UInt64) : List UInt64 :=
  (List.range n).foldl (fun acc k => accumulate b (i + 64 * k) (8 * k) acc) acc

def merge (acc : List UInt64) (start : UInt64) : UInt64 :=
  let lane (k : Nat) : UInt64 := acc.getD k 0
  let sum := (List.range 4).foldl
    (fun s k => s + foldedProduct (lane (2 * k) ^^^ word64 secret (11 + 16 * k))
      (lane (2 * k + 1) ^^^ word64 secret (19 + 16 * k))) start
  spread sum

def long (b : ByteArray) : UInt64 :=
  let n := b.size
  let blocks := (n - 1) / 1024
  let acc := (List.range blocks).foldl
    (fun acc k => scramble (accumulateStripes b (1024 * k) 16 acc)) lanes
  let acc := accumulateStripes b (1024 * blocks) ((n - 1 - 1024 * blocks) / 64) acc
  let acc := accumulate b (n - 64) 121 acc
  merge acc (n.toUInt64 * prime64a)

/-- The digest of a sequence of bytes. -/
def ofBytes (b : ByteArray) : UInt64 :=
  if b.size = 0 then spreadShort (word64 secret 56 ^^^ word64 secret 64)
  else if b.size ≤ 3 then upTo3 b
  else if b.size ≤ 8 then upTo8 b
  else if b.size ≤ 16 then upTo16 b
  else if b.size ≤ 128 then upTo128 b
  else if b.size ≤ 240 then upTo240 b
  else long b

/-- The digest of a text. -/
def ofText (t : Text) : UInt64 := ofBytes (String.ofList t).toUTF8

end Graft.Digest
