import Graft.Shell.Tool.Basic

/-!
# Showing bytes

`od` shows bytes as numbers, characters or names, in lines that begin with an offset.
-/
namespace Graft.Shell.Tool

/-- How bytes are shown. -/
inductive ByteView where
  | names
  | characters
  | signed (size : Nat)
  | unsigned (size : Nat)
  | octal (size : Nat)
  | hexadecimal (size : Nat)
  deriving DecidableEq, Repr

namespace ByteView

/-- How many bytes a field shows. -/
def size : ByteView → Nat
  | names | characters => 1
  | signed n | unsigned n | octal n | hexadecimal n => n

/-- How wide a field is. -/
def width : ByteView → Nat
  | names | characters => 3
  | signed n => if n == 1 then 4 else if n == 2 then 6 else if n == 4 then 11 else 20
  | unsigned n => if n == 1 then 3 else if n == 2 then 5 else if n == 4 then 10 else 20
  | octal n => if n == 1 then 3 else if n == 2 then 6 else if n == 4 then 11 else 22
  | hexadecimal n => 2 * n

private def controlNames : List String :=
  ["nul", "soh", "stx", "etx", "eot", "enq", "ack", "bel", "bs", "ht", "nl", "vt", "ff", "cr", "so",
    "si", "dle", "dc1", "dc2", "dc3", "dc4", "nak", "syn", "etb", "can", "em", "sub", "esc", "fs",
    "gs", "rs", "us", "sp"]

private def zeros (width : Nat) (t : Bytes) : Bytes := List.replicate (width - t.length) '0' ++ t

private def character (n : Nat) : Bytes :=
  match n with
  | 0 => ['\\', '0']
  | 7 => ['\\', 'a']
  | 8 => ['\\', 'b']
  | 9 => ['\\', 't']
  | 10 => ['\\', 'n']
  | 11 => ['\\', 'v']
  | 12 => ['\\', 'f']
  | 13 => ['\\', 'r']
  | n => if 32 ≤ n && n < 127 then [Char.ofNat n] else zeros 3 (Nat.toDigits 8 n)

/-- The text of a field; the first byte is the lowest. -/
def text (v : ByteView) (bytes : List Nat) : Bytes :=
  let n := bytes.reverse.foldl (fun n b => 256 * n + b) 0
  match v with
  | names =>
    let c := n % 128
    if c == 127 then "del".toList
    else if c ≤ 32 then (controlNames.getD c "").toList else [Char.ofNat c]
  | characters => character n
  | signed size =>
    let half := Nat.pow 256 size / 2
    (toString (if n < half then (n : Int) else n - Int.pow 256 size)).toList
  | unsigned _ => (toString n).toList
  | octal _ => zeros v.width (Nat.toDigits 8 n)
  | hexadecimal _ => zeros v.width (Nat.toDigits 16 n)

end ByteView

/-- The size that stands behind the letter of a view. -/
private def viewSize (t : Bytes) : Nat × Bytes :=
  match t with
  | 'C' :: r => (1, r)
  | 'S' :: r => (2, r)
  | 'I' :: r => (4, r)
  | 'L' :: r => (8, r)
  | t =>
    let ds := t.takeWhile Char.isDigit
    if ds.isEmpty then (4, t) else (ofDigits ds, t.drop ds.length)

/-- The views that letters name, each with the wish for the characters at the end of the line. -/
private def views : Nat → Bytes → Except String (List (ByteView × Bool))
  | 0, _ => .ok []
  | _, [] => .ok []
  | fuel + 1, c :: r => do
    let sized := viewSize r
    let (v, rest) ← match c with
      | 'a' => .ok (ByteView.names, r)
      | 'c' => .ok (.characters, r)
      | 'd' => .ok (.signed sized.1, sized.2)
      | 'u' => .ok (.unsigned sized.1, sized.2)
      | 'o' => .ok (.octal sized.1, sized.2)
      | 'x' => .ok (.hexadecimal sized.1, sized.2)
      | c => .error ("invalid character '" ++ c.toString ++ "' in type string " ++ quote (c :: r))
    if !([1, 2, 4, 8].contains v.size) then
      .error ("invalid type string " ++ quote (c :: r) ++ ";\nthis system doesn't provide a " ++
        toString v.size ++ "-byte integral type")
    let (z, rest) := match rest with
      | 'z' :: rest => (true, rest)
      | rest => (false, rest)
    return (v, z) :: (← views fuel rest)

/-- The views that an option stands for. -/
private def optionViews (key : String) (value : Option Bytes) :
    Except String (List (ByteView × Bool)) :=
  match key with
  | "t" => let t := value.getD []; views (t.length + 1) t
  | "a" => .ok [(.names, false)]
  | "b" => .ok [(.octal 1, false)]
  | "c" => .ok [(.characters, false)]
  | "d" => .ok [(.unsigned 2, false)]
  | "D" => .ok [(.unsigned 4, false)]
  | "i" => .ok [(.signed 4, false)]
  | "l" | "I" | "L" => .ok [(.signed 8, false)]
  | "o" | "B" => .ok [(.octal 2, false)]
  | "O" => .ok [(.octal 4, false)]
  | "s" => .ok [(.signed 2, false)]
  | "x" | "h" => .ok [(.hexadecimal 2, false)]
  | "X" | "H" => .ok [(.hexadecimal 4, false)]
  | _ => .ok []

/-- Pieces of a list. -/
private def pieces (size : Nat) : Nat → List Nat → List (List Nat)
  | 0, _ => []
  | _, [] => []
  | fuel + 1, ns => ns.take size :: pieces size fuel (ns.drop size)

/-- The fields of a line: the room that other views need more is spread over them. -/
private def fieldsText (v : ByteView) (block room : Nat) (bytes : List Nat) : Bytes :=
  let fields := block / v.size
  let pad := room - v.width * fields
  let values := pieces v.size bytes.length bytes
  (values.zipIdx.flatMap fun (bs, k) =>
    let i := fields - k
    let before := pad * i / fields
    let next := pad * (i - 1) / fields
    padLeft (v.width + before - next) (v.text bs))

/-- The lines of a dump. A line that repeats the one before is left out; a star stands for all of
them. -/
private def dumpLines (address : Nat → Bytes) (vs : List (ByteView × Bool)) (block : Nat)
    (all : Bool) : Nat → Nat → Option (List Nat) → Bool → List Nat → List Bytes → List Bytes
  | 0, _, _, _, _, done => done
  | fuel + 1, offset, last, starred, bytes, done =>
    if bytes.isEmpty then done
    else
      let now := bytes.take block
      let rest := bytes.drop block
      if !all && last == some now && now.length == block then
        dumpLines address vs block all fuel (offset + block) last true rest
          (if starred then done else ['*', '\n'] :: done)
      else
        let room := (vs.map fun (v, _) => (v.width + 1) * (block / v.size)).foldl max 0
        let start := address offset
        let lines := vs.zipIdx.map fun ((v, z), k) =>
          let first := if k == 0 then start else List.replicate start.length ' '
          let text := fieldsText v block room now
          let tail := if z then
              List.replicate (room - text.length) ' ' ++ "  >".toList ++
                (now.map fun n => if 32 ≤ n && n < 127 then Char.ofNat n else '.') ++ ['<']
            else []
          first ++ text ++ tail ++ ['\n']
        dumpLines address vs block all fuel (offset + now.length) (some now) false rest
          (lines.flatten :: done)

private def leastCommon (a b : Nat) : Nat := a * b / Nat.gcd a b

def od (s : State) (args : List Bytes) : State :=
  withFlags ("A=/address-radix j=/skip-bytes N=/read-bytes S?/strings t=/format v/output-duplicates " ++
    "w?/width a b c d D f i l I L o B O s x h X H e F /traditional /endian=") 1 s args fun o ps =>
    let chosen := o.foldl (fun acc (key, value) => do
      return (← acc) ++ (← optionViews key value)) (.ok [])
    let number (key : String) : Option Bytes := o.value? key
    let bad := ["j", "N"].find? fun k => (number k).any fun v => (amount? v).isNone
    match chosen, bad with
    | .error message, _ => s.grumble 1 message
    | _, some k => s.grumble 1 ("invalid -" ++ k ++ " argument " ++ quote ((number k).getD []))
    | .ok vs, none =>
      let vs := if vs.isEmpty then [(ByteView.octal 2, false)] else vs
      let unit := vs.foldl (fun n (v, _) => leastCommon n v.size) 1
      let block := match o.has "w", o.value? "w" with
        | true, some w => ofDigits w
        | true, none => 32
        | false, _ => 16 / unit * unit
      if block == 0 || block % unit != 0 then
        s.grumble 1 ("warning: invalid width " ++ toString block ++ "; using " ++ toString unit ++
          " instead")
      else
        let radix := ((o.value? "A").getD ['o']).headD 'o'
        let address (n : Nat) : Bytes := match radix with
          | 'd' => zeroed 7 (toString n).toList
          | 'x' => zeroed 6 (Nat.toDigits 16 n)
          | 'n' => []
          | _ => zeroed 7 (Nat.toDigits 8 n)
        if !(['d', 'o', 'x', 'n'].contains radix) then
          s.grumble 1 ("invalid output address radix '" ++ radix.toString ++
            "'; it must be one character from [doxn]")
        else
          let before := s.status
          let (s, t) := gather { s with status := 0 } ps 1 plainly
          let isUnread : Bool := s.status != 0 && t.isEmpty
          let s := s.finish (max before s.status)
          let skip := ((number "j").bind amount?).getD 0
          let body := t.drop skip
          let body := match (number "N").bind amount? with
            | some n => body.take n
            | none => body
          if skip > t.length then s.grumble 1 "cannot skip past end of combined input"
          else
            let bytes := body.map Char.toNat
            let lines := dumpLines address vs block (o.has "v") (bytes.length + 1) skip none false
              bytes []
            let final := if radix == 'n' || isUnread then [] else address (skip + bytes.length) ++
              ['\n']
            s.print (lines.reverse.flatten ++ final)
where
  zeroed (width : Nat) (t : Bytes) : Bytes := List.replicate (width - t.length) '0' ++ t
  /-- A number in decimal, octal or hexadecimal digits with a unit. -/
  amount? (t : Bytes) : Option Nat :=
    match t with
    | '0' :: 'x' :: r => if r.isEmpty then none else some (Arithmetic.ofDigits 16 r)
    | '0' :: r => if isDigits r then some (Arithmetic.ofDigits 8 r) else sized? t
    | t => sized? t

end Graft.Shell.Tool
