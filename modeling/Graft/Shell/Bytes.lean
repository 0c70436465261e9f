import Graft.Disk

/-!
# Bytes

Programs exchange bytes. A byte is written as the character of its code, so that ASCII text and the
bytes it stands for look the same.
-/
namespace Graft

/-- Characters with codes below 256, one for each byte. -/
abbrev Bytes := List Char

namespace Bytes

/-- More than there are letters and words. -/
def room (words : List Bytes) : Nat :=
  (words.map List.length).foldl (· + ·) 0 + words.length + 1

/-- The bytes of a text in UTF-8. -/
def ofText (t : Text) : Bytes :=
  t.flatMap fun c => (String.utf8EncodeChar c).map fun b => Char.ofNat b.toNat

/-- The range of the second byte after a first one, and how many bytes follow in all. -/
private def continuation? (first : Nat) : Option (Nat × Nat × Nat) :=
  if 0xc2 ≤ first && first ≤ 0xdf then some (0x80, 0xbf, 1)
  else if first = 0xe0 then some (0xa0, 0xbf, 2)
  else if first = 0xed then some (0x80, 0x9f, 2)
  else if 0xe1 ≤ first && first ≤ 0xef then some (0x80, 0xbf, 2)
  else if first = 0xf0 then some (0x90, 0xbf, 3)
  else if 0xf1 ≤ first && first ≤ 0xf3 then some (0x80, 0xbf, 3)
  else if first = 0xf4 then some (0x80, 0x8f, 3)
  else none

/-- Reads `count` more bytes of a character, the first of them between `low` and `high`. Gives the
code if all are there, and what is left in any case. -/
private def more (code low high : Nat) : Nat → Bytes → Option Nat × Bytes
  | 0, r => (some code, r)
  | _ + 1, [] => (none, [])
  | count + 1, c :: r =>
    if low ≤ c.toNat && c.toNat ≤ high then
      more (64 * code + (c.toNat - 0x80)) 0x80 0xbf count r
    else (none, c :: r)

/-- The first character of the bytes `c :: r`, if it is proper, and what is left. -/
def first (c : Char) (r : Bytes) : Option Char × Bytes :=
  if c.toNat < 0x80 then (some c, r)
  else
    match continuation? c.toNat with
    | none => (none, r)
    | some (low, high, count) =>
      let lead := c.toNat % Nat.pow 2 (6 - count)
      let (code, rest) := more lead low high count r
      (code.map Char.ofNat, rest)

/-- The characters of the bytes, `none` for each sequence that is no character. -/
def characters : Nat → Bytes → List (Option Char)
  | 0, _ => []
  | _, [] => []
  | fuel + 1, c :: r =>
    let (d, rest) := first c r
    d :: characters fuel rest

/-- The text that the bytes encode. -/
def toText? (b : Bytes) : Option Text := (characters b.length b).mapM id

/-- The text that the bytes encode, with a sign in place of what is no character. -/
def toText (b : Bytes) : Text := (characters b.length b).map (·.getD (Char.ofNat 0xfffd))

/-- Puts a byte before the first of some parts. -/
private def consFirst (c : Char) : List Bytes → List Bytes
  | [] => [[c]]
  | t :: ts => (c :: t) :: ts

/-- The parts of bytes between those that equal a mark. -/
def split (mark : Char) (b : Bytes) : List Bytes :=
  b.foldr (fun c ts => if c == mark then [] :: ts else consFirst c ts) [[]]

/-- The lines of bytes, each with its end. -/
def lines (b : Bytes) : List Bytes :=
  b.foldr (fun c ls => if c == '\n' then [c] :: ls else consFirst c ls) []

end Bytes

namespace Disk.Content

def bytes : Disk.Content → Bytes
  | text t => .ofText t
  | raw bs => bs.map fun b => Char.ofNat b.toNat

def ofBytes (b : Bytes) : Disk.Content :=
  match b.toText? with
  | some t => text t
  | none => raw (b.map fun c => UInt8.ofNat c.toNat)

end Disk.Content
end Graft
