import Graft.Text

/-!
# Checksums

Digests of bytes that programs of the system print: those of the families MD5, SHA and BLAKE2,
and cyclic redundancy checks. Bytes are characters with codes below 256.
-/
namespace Graft.Checksum

/-- Words of so many bytes, with the first byte as the highest or as the lowest. -/
def words (size : Nat) (high : Bool) : Nat → List Nat → List Nat
  | 0, _ => []
  | _, [] => []
  | fuel + 1, bytes =>
    let word := bytes.take size
    let ordered := if high then word else word.reverse
    ordered.foldl (fun n b => 256 * n + b) 0 :: words size high fuel (bytes.drop size)

/-- The bytes of a word. -/
def bytesOf (size : Nat) (high : Bool) (n : Nat) : List Nat :=
  let low := (List.range size).map fun i => n / Nat.pow 256 i % 256
  if high then low.reverse else low

/-- A message filled up to whole blocks: a mark, zeros, and the number of its bits. -/
def padded (block count : Nat) (high : Bool) (bytes : List Nat) : List Nat :=
  let size := bytes.length
  let zeros := (block - (size + 1 + count) % block) % block
  bytes ++ 0x80 :: List.replicate zeros 0 ++ bytesOf count high (8 * size)

/-- Cuts a list into pieces. -/
def blocks (size : Nat) : Nat → List Nat → List (List Nat)
  | 0, _ => []
  | _, [] => []
  | fuel + 1, bytes => bytes.take size :: blocks size fuel (bytes.drop size)

/-- The digits of bytes. -/
def hex (bytes : List Nat) : Text :=
  bytes.flatMap fun b => [b / 16, b % 16].map fun d => "0123456789abcdef".toList.getD d '0'

/-! ## Words of 32 bits -/

private def rotate (x : UInt32) (n : UInt32) : UInt32 := (x <<< n) ||| (x >>> (32 - n))

private def md5Shifts : Array UInt32 := #[7, 12, 17, 22, 5, 9, 14, 20, 4, 11, 16, 23, 6, 10, 15, 21]

private def md5Table : Array UInt32 := #[
  0xd76aa478, 0xe8c7b756, 0x242070db, 0xc1bdceee, 0xf57c0faf, 0x4787c62a, 0xa8304613, 0xfd469501,
  0x698098d8, 0x8b44f7af, 0xffff5bb1, 0x895cd7be, 0x6b901122, 0xfd987193, 0xa679438e, 0x49b40821,
  0xf61e2562, 0xc040b340, 0x265e5a51, 0xe9b6c7aa, 0xd62f105d, 0x02441453, 0xd8a1e681, 0xe7d3fbc8,
  0x21e1cde6, 0xc33707d6, 0xf4d50d87, 0x455a14ed, 0xa9e3e905, 0xfcefa3f8, 0x676f02d9, 0x8d2a4c8a,
  0xfffa3942, 0x8771f681, 0x6d9d6122, 0xfde5380c, 0xa4beea44, 0x4bdecfa9, 0xf6bb4b60, 0xbebfbc70,
  0x289b7ec6, 0xeaa127fa, 0xd4ef3085, 0x04881d05, 0xd9d4d039, 0xe6db99e5, 0x1fa27cf8, 0xc4ac5665,
  0xf4292244, 0x432aff97, 0xab9423a7, 0xfc93a039, 0x655b59c3, 0x8f0ccc92, 0xffeff47d, 0x85845dd1,
  0x6fa87e4f, 0xfe2ce6e0, 0xa3014314, 0x4e0811a1, 0xf7537e82, 0xbd3af235, 0x2ad7d2bb, 0xeb86d391]

/-- Four or five words of a digest. -/
structure Quintet where
  a : UInt32
  b : UInt32
  c : UInt32
  d : UInt32
  e : UInt32

private def md5Round (m : Array UInt32) (q : Quintet) (i : Nat) : Quintet :=
  let (f, g) :=
    if i < 16 then ((q.b &&& q.c) ||| (~~~q.b &&& q.d), i)
    else if i < 32 then ((q.d &&& q.b) ||| (~~~q.d &&& q.c), (5 * i + 1) % 16)
    else if i < 48 then (q.b ^^^ q.c ^^^ q.d, (3 * i + 5) % 16)
    else (q.c ^^^ (q.b ||| ~~~q.d), 7 * i % 16)
  let sum := f + q.a + md5Table.getD i 0 + m.getD g 0
  ⟨q.d, q.b + rotate sum (md5Shifts.getD (i / 16 * 4 + i % 4) 0), q.b, q.c, q.e⟩

private def md5Block (q : Quintet) (block : List Nat) : Quintet :=
  let m := ((words 4 false 16 block).map UInt32.ofNat).toArray
  let r := (List.range 64).foldl (md5Round m) q
  ⟨q.a + r.a, q.b + r.b, q.c + r.c, q.d + r.d, 0⟩

def md5 (bytes : List Nat) : List Nat :=
  let p := padded 64 8 false bytes
  let q := (blocks 64 (p.length / 64) p).foldl md5Block
    ⟨0x67452301, 0xefcdab89, 0x98badcfe, 0x10325476, 0⟩
  [q.a, q.b, q.c, q.d].flatMap fun w => bytesOf 4 false w.toNat

private def sha1Round (m : Array UInt32) (q : Quintet) (i : Nat) : Quintet :=
  let (f, k) : UInt32 × UInt32 :=
    if i < 20 then ((q.b &&& q.c) ||| (~~~q.b &&& q.d), 0x5a827999)
    else if i < 40 then (q.b ^^^ q.c ^^^ q.d, 0x6ed9eba1)
    else if i < 60 then ((q.b &&& q.c) ||| (q.b &&& q.d) ||| (q.c &&& q.d), 0x8f1bbcdc)
    else (q.b ^^^ q.c ^^^ q.d, 0xca62c1d6)
  ⟨rotate q.a 5 + f + q.e + k + m.getD i 0, q.a, rotate q.b 30, q.c, q.d⟩

private def sha1Block (q : Quintet) (block : List Nat) : Quintet :=
  let first := ((words 4 true 16 block).map UInt32.ofNat).toArray
  let m := (List.range 64).foldl (fun (m : Array UInt32) i =>
    let x := m.getD (i + 13) 0 ^^^ m.getD (i + 8) 0 ^^^ m.getD (i + 2) 0 ^^^ m.getD i 0
    m.push (rotate x 1)) first
  let r := (List.range 80).foldl (sha1Round m) q
  ⟨q.a + r.a, q.b + r.b, q.c + r.c, q.d + r.d, q.e + r.e⟩

def sha1 (bytes : List Nat) : List Nat :=
  let p := padded 64 8 true bytes
  let q := (blocks 64 (p.length / 64) p).foldl sha1Block
    ⟨0x67452301, 0xefcdab89, 0x98badcfe, 0x10325476, 0xc3d2e1f0⟩
  [q.a, q.b, q.c, q.d, q.e].flatMap fun w => bytesOf 4 true w.toNat

/-! ## The second family of SHA

Both widths have the same rounds with other shifts. The constants for 32 bits are the high halves of
those for 64. -/

private def sha2Table : Array UInt64 := #[
  0x428a2f98d728ae22, 0x7137449123ef65cd, 0xb5c0fbcfec4d3b2f, 0xe9b5dba58189dbbc,
  0x3956c25bf348b538, 0x59f111f1b605d019, 0x923f82a4af194f9b, 0xab1c5ed5da6d8118,
  0xd807aa98a3030242, 0x12835b0145706fbe, 0x243185be4ee4b28c, 0x550c7dc3d5ffb4e2,
  0x72be5d74f27b896f, 0x80deb1fe3b1696b1, 0x9bdc06a725c71235, 0xc19bf174cf692694,
  0xe49b69c19ef14ad2, 0xefbe4786384f25e3, 0x0fc19dc68b8cd5b5, 0x240ca1cc77ac9c65,
  0x2de92c6f592b0275, 0x4a7484aa6ea6e483, 0x5cb0a9dcbd41fbd4, 0x76f988da831153b5,
  0x983e5152ee66dfab, 0xa831c66d2db43210, 0xb00327c898fb213f, 0xbf597fc7beef0ee4,
  0xc6e00bf33da88fc2, 0xd5a79147930aa725, 0x06ca6351e003826f, 0x142929670a0e6e70,
  0x27b70a8546d22ffc, 0x2e1b21385c26c926, 0x4d2c6dfc5ac42aed, 0x53380d139d95b3df,
  0x650a73548baf63de, 0x766a0abb3c77b2a8, 0x81c2c92e47edaee6, 0x92722c851482353b,
  0xa2bfe8a14cf10364, 0xa81a664bbc423001, 0xc24b8b70d0f89791, 0xc76c51a30654be30,
  0xd192e819d6ef5218, 0xd69906245565a910, 0xf40e35855771202a, 0x106aa07032bbd1b8,
  0x19a4c116b8d2d0c8, 0x1e376c085141ab53, 0x2748774cdf8eeb99, 0x34b0bcb5e19b48a8,
  0x391c0cb3c5c95a63, 0x4ed8aa4ae3418acb, 0x5b9cca4f7763e373, 0x682e6ff3d6b2b8a3,
  0x748f82ee5defb2fc, 0x78a5636f43172f60, 0x84c87814a1f0ab72, 0x8cc702081a6439ec,
  0x90befffa23631e28, 0xa4506cebde82bde9, 0xbef9a3f7b2c67915, 0xc67178f2e372532b,
  0xca273eceea26619c, 0xd186b8c721c0c207, 0xeada7dd6cde0eb1e, 0xf57d4f7fee6ed178,
  0x06f067aa72176fba, 0x0a637dc5a2c898a6, 0x113f9804bef90dae, 0x1b710b35131c471b,
  0x28db77f523047d84, 0x32caab7b40c72493, 0x3c9ebe0a15c9bebc, 0x431d67c49c100d4c,
  0x4cc5d4becb3e42b6, 0x597f299cfc657e2a, 0x5fcb6fab3ad6faec, 0x6c44198c4a475817]

/-- What a width decides: the number of bits, of rounds, and the shifts. -/
structure Width where
  bits : UInt64
  rounds : Nat
  sumA : UInt64 × UInt64 × UInt64
  sumE : UInt64 × UInt64 × UInt64
  early : UInt64 × UInt64 × UInt64
  late : UInt64 × UInt64 × UInt64

private def narrow : Width := ⟨32, 64, (2, 13, 22), (6, 11, 25), (7, 18, 3), (17, 19, 10)⟩

private def wide : Width := ⟨64, 80, (28, 34, 39), (14, 18, 41), (1, 8, 7), (19, 61, 6)⟩

namespace Width

/-- The part of a word that the width has. -/
def cut (w : Width) (x : UInt64) : UInt64 := if w.bits == 32 then x &&& 0xffffffff else x

private def right (w : Width) (x n : UInt64) : UInt64 := w.cut ((x >>> n) ||| (x <<< (w.bits - n)))

private def sum (w : Width) (shifts : UInt64 × UInt64 × UInt64) (x : UInt64) : UInt64 :=
  w.right x shifts.1 ^^^ w.right x shifts.2.1 ^^^ w.right x shifts.2.2

private def mix (w : Width) (shifts : UInt64 × UInt64 × UInt64) (x : UInt64) : UInt64 :=
  w.right x shifts.1 ^^^ w.right x shifts.2.1 ^^^ (x >>> shifts.2.2)

private def constant (w : Width) (i : Nat) : UInt64 :=
  let k := sha2Table.getD i 0
  if w.bits == 32 then k >>> 32 else k

private def sha2Round (w : Width) (m : Array UInt64) (v : Array UInt64) (i : Nat) : Array UInt64 :=
  let x (n : Nat) : UInt64 := v.getD n 0
  let choice := (x 4 &&& x 5) ^^^ (~~~(x 4) &&& x 6)
  let majority := (x 0 &&& x 1) ^^^ (x 0 &&& x 2) ^^^ (x 1 &&& x 2)
  let first := x 7 + w.sum w.sumE (x 4) + w.cut choice + w.constant i + m.getD i 0
  let second := w.sum w.sumA (x 0) + majority
  #[w.cut (first + second), x 0, x 1, x 2, w.cut (x 3 + first), x 4, x 5, x 6]

private def sha2Block (w : Width) (v : Array UInt64) (block : List Nat) : Array UInt64 :=
  let size := w.bits.toNat / 8
  let first := ((words size true 16 block).map UInt64.ofNat).toArray
  let m := (List.range (w.rounds - 16)).foldl (fun (m : Array UInt64) i =>
    m.push (w.cut (w.mix w.late (m.getD (i + 14) 0) + m.getD (i + 9) 0 +
      w.mix w.early (m.getD (i + 1) 0) + m.getD i 0))) first
  let r := (List.range w.rounds).foldl (w.sha2Round m) v
  (v.zip r).map fun (a, b) => w.cut (a + b)

/-- The digest with the given first words. -/
def digest (w : Width) (first : Array UInt64) (bytes : List Nat) : List Nat :=
  let size := w.bits.toNat / 8
  let block := 16 * size
  let p := padded block (2 * size) true bytes
  let v := (blocks block (p.length / block) p).foldl w.sha2Block first
  v.toList.flatMap fun x => bytesOf size true x.toNat

end Width

def sha256 (bytes : List Nat) : List Nat :=
  narrow.digest #[0x6a09e667, 0xbb67ae85, 0x3c6ef372, 0xa54ff53a, 0x510e527f, 0x9b05688c,
    0x1f83d9ab, 0x5be0cd19] bytes

def sha224 (bytes : List Nat) : List Nat :=
  (narrow.digest #[0xc1059ed8, 0x367cd507, 0x3070dd17, 0xf70e5939, 0xffc00b31, 0x68581511,
    0x64f98fa7, 0xbefa4fa4] bytes).take 28

/-- Where digests of 64 bytes begin. -/
private def wideStart : Array UInt64 :=
  #[0x6a09e667f3bcc908, 0xbb67ae8584caa73b, 0x3c6ef372fe94f82b, 0xa54ff53a5f1d36f1,
    0x510e527fade682d1, 0x9b05688c2b3e6c1f, 0x1f83d9abfb41bd6b, 0x5be0cd19137e2179]

def sha512 (bytes : List Nat) : List Nat :=
  wide.digest wideStart bytes

def sha384 (bytes : List Nat) : List Nat :=
  (wide.digest #[0xcbbb9d5dc1059ed8, 0x629a292a367cd507, 0x9159015a3070dd17, 0x152fecd8f70e5939,
    0x67332667ffc00b31, 0x8eb44a8768581511, 0xdb0c2e0d64f98fa7, 0x47b5481dbefa4fa4] bytes).take 48

/-! ## BLAKE2

Digests of up to 64 bytes. The number of bytes before the end of a block is part of its state. -/

private def blakeOrders : Array (Array Nat) := #[
  #[0, 1, 2, 3, 4, 5, 6, 7, 8, 9, 10, 11, 12, 13, 14, 15],
  #[14, 10, 4, 8, 9, 15, 13, 6, 1, 12, 0, 2, 11, 7, 5, 3],
  #[11, 8, 12, 0, 5, 2, 15, 13, 10, 14, 3, 6, 7, 1, 9, 4],
  #[7, 9, 3, 1, 13, 12, 11, 14, 2, 6, 5, 10, 4, 0, 15, 8],
  #[9, 0, 5, 7, 2, 4, 10, 15, 14, 1, 11, 12, 6, 8, 3, 13],
  #[2, 12, 6, 10, 0, 11, 8, 3, 4, 13, 7, 5, 15, 14, 1, 9],
  #[12, 5, 1, 15, 14, 13, 4, 10, 0, 7, 6, 3, 9, 2, 8, 11],
  #[13, 11, 7, 14, 12, 1, 3, 9, 5, 0, 15, 4, 8, 6, 2, 10],
  #[6, 15, 14, 9, 11, 3, 0, 8, 12, 2, 13, 7, 1, 4, 10, 5],
  #[10, 2, 8, 4, 7, 6, 1, 5, 15, 11, 9, 14, 3, 12, 13, 0]]

/-- The columns and the diagonals of four rows. -/
private def blakeQuarters : List (Nat × Nat × Nat × Nat) :=
  [(0, 4, 8, 12), (1, 5, 9, 13), (2, 6, 10, 14), (3, 7, 11, 15), (0, 5, 10, 15), (1, 6, 11, 12),
    (2, 7, 8, 13), (3, 4, 9, 14)]

private def blakeMix (v : Array UInt64) (q : Nat × Nat × Nat × Nat) (x y : UInt64) : Array UInt64 :=
  let turn (n k : UInt64) : UInt64 := (n >>> k) ||| (n <<< (64 - k))
  let (ia, ib, ic, id) := q
  let a := v.getD ia 0 + v.getD ib 0 + x
  let d := turn (v.getD id 0 ^^^ a) 32
  let c := v.getD ic 0 + d
  let b := turn (v.getD ib 0 ^^^ c) 24
  let a := a + b + y
  let d := turn (d ^^^ a) 16
  let c := c + d
  let b := turn (b ^^^ c) 63
  (((v.setIfInBounds ia a).setIfInBounds ib b).setIfInBounds ic c).setIfInBounds id d

private def blakeBlock (h : Array UInt64) (block : List Nat) (count : Nat) (isLast : Bool) :
    Array UInt64 :=
  let m := ((words 8 false 16 block).map UInt64.ofNat).toArray
  let v := h ++ wideStart
  let v := v.setIfInBounds 12 (v.getD 12 0 ^^^ UInt64.ofNat count)
  let v := if isLast then v.setIfInBounds 14 (~~~(v.getD 14 0)) else v
  let v := (List.range 12).foldl (fun v round =>
    let order := blakeOrders.getD (round % 10) #[]
    blakeQuarters.zipIdx.foldl (fun v (q, i) =>
      blakeMix v q (m.getD (order.getD (2 * i) 0) 0) (m.getD (order.getD (2 * i + 1) 0) 0)) v) v
  h.mapIdx fun i x => x ^^^ v.getD i 0 ^^^ v.getD (i + 8) 0

/-- The digest of so many bytes. -/
def blake2 (size : Nat) (bytes : List Nat) : List Nat :=
  let first := wideStart.setIfInBounds 0
    (wideStart.getD 0 0 ^^^ 0x01010000 ^^^ UInt64.ofNat size)
  let parts := if bytes.isEmpty then [[]] else blocks 128 (bytes.length / 128 + 1) bytes
  let (h, _) := parts.zipIdx.foldl (fun ((h, count) : Array UInt64 × Nat) (part, i) =>
    let count := count + part.length
    let filled := part ++ List.replicate (128 - part.length) 0
    (blakeBlock h filled count (i + 1 == parts.length), count)) (first, 0)
  (h.toList.flatMap fun x => bytesOf 8 false x.toNat).take size

/-! ## Sums -/

/-- One byte of the cyclic redundancy check with the polynomial 0x04c11db7. -/
private def crcByte (crc : UInt32) (b : Nat) : UInt32 :=
  (List.range 8).foldl (fun (c : UInt32) _ =>
    if c &&& 0x80000000 != 0 then (c <<< 1) ^^^ 0x04c11db7 else c <<< 1)
    (crc ^^^ (UInt32.ofNat b <<< 24))

/-- The bytes of a length, lowest first, without zeros at the end. -/
private def lengthBytes : Nat → Nat → List Nat
  | 0, _ => []
  | fuel + 1, n => if n == 0 then [] else n % 256 :: lengthBytes fuel (n / 256)

/-- The check of a message and its length. -/
def crc (bytes : List Nat) : UInt32 :=
  let c := bytes.foldl crcByte 0
  ~~~((lengthBytes 8 bytes.length).foldl crcByte c)

/-- A sum of 16 bits that is rotated before each byte. -/
def rotatedSum (bytes : List Nat) : Nat :=
  bytes.foldl (fun n b => (n / 2 + n % 2 * 0x8000 + b) % 0x10000) 0

/-- A sum of all bytes folded to 16 bits. -/
def foldedSum (bytes : List Nat) : Nat :=
  let n := bytes.foldl (· + ·) 0 % Nat.pow 2 32
  let r := n % 0x10000 + n / 0x10000
  r % 0x10000 + r / 0x10000

/-! ## Letters for bits -/

/-- Bits, highest first. -/
private def bits (bytes : List Nat) : List Nat :=
  bytes.flatMap fun b => (List.range 8).map fun i => b / Nat.pow 2 (7 - i) % 2

private def alphabet64 : List Char :=
  "ABCDEFGHIJKLMNOPQRSTUVWXYZabcdefghijklmnopqrstuvwxyz0123456789+/".toList

private def alphabet32 : List Char := "ABCDEFGHIJKLMNOPQRSTUVWXYZ234567".toList

/-- Letters for groups of so many bits, filled up to whole groups of letters. -/
def encode (alphabet : Array Char) (width group : Nat) (bytes : List Nat) : Text :=
  let digits : Nat → List Nat → List Char := fun fuel bs =>
    let rec go : Nat → List Nat → List Char → List Char
      | 0, _, done => done.reverse
      | _, [], done => done.reverse
      | fuel + 1, bs, done =>
        let piece := bs.take width
        let n := piece.foldl (fun n b => 2 * n + b) 0 * Nat.pow 2 (width - piece.length)
        go fuel (bs.drop width) (alphabet.getD n '=' :: done)
    go fuel bs []
  let text := digits (8 * bytes.length) (bits bytes)
  text ++ List.replicate ((group - text.length % group) % group) '='

def base64 (bytes : List Nat) : Text := encode alphabet64.toArray 6 4 bytes

def base32 (bytes : List Nat) : Text := encode alphabet32.toArray 5 8 bytes

/-- The bytes that a group of letters stands for, and whether it was complete: marks may stand at
its end. -/
private def decodeGroup (alphabet : List Char) (width group : Nat) (t : Text) : List Nat × Bool :=
  let good := t.takeWhile alphabet.contains
  let marks := t.drop good.length
  let n := good.foldl (fun n c => Nat.pow 2 width * n + alphabet.idxOf c) 0
  let count := good.length * width / 8
  let value := n / Nat.pow 2 (good.length * width - 8 * count)
  (bytesOf count true value, t.length == group && marks.all (· == '=') && count > 0)

/-- The bytes that letters stand for, and whether all of them were such letters in whole groups. -/
def decode (alphabet : List Char) (width group : Nat) (t : Text) : List Nat × Bool :=
  let rec go : Nat → Text → List (List Nat) → List (List Nat) × Bool
    | 0, _, done => (done, true)
    | _, [], done => (done, true)
    | fuel + 1, t, done =>
      let (bytes, isWhole) := decodeGroup alphabet width group (t.take group)
      if isWhole then go fuel (t.drop group) (bytes :: done) else (bytes :: done, false)
  let (groups, isWhole) := go t.length t []
  (groups.reverse.flatten, isWhole)

def ofBase64 (t : Text) : List Nat × Bool := decode alphabet64 6 4 t

def ofBase32 (t : Text) : List Nat × Bool := decode alphabet32 5 8 t

end Graft.Checksum
