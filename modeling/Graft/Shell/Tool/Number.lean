import Graft.Shell.Format
import Graft.Shell.Tool.Basic

/-!
# Programs for numbers

`seq` counts, `factor` splits numbers into primes, `shuf` picks lines, `numfmt` shows units.
-/
namespace Graft.Shell.Tool

/-! ## Counting -/

/-- A decimal number in an argument: its value is `scaled` with the point moved by `places`, and it
was written with `width` characters. -/
structure Step where
  scaled : Int
  places : Nat
  width : Nat

namespace Step

def ofBytes? (t : Bytes) : Option Step :=
  let t := t.dropWhile isSpace
  let (negative, r) := match t with
    | '-' :: r => (true, r)
    | '+' :: r => (false, r)
    | r => (false, r)
  match Decimal.leading? r with
  | some (m, e, []) =>
    let scaled : Int := if 0 ≤ e then m * Int.pow 10 e.toNat else m
    let width := if t.head? == some '+' then t.length - 1 else t.length
    some ⟨if negative then -scaled else scaled, (-e).toNat, width⟩
  | _ => if r.map Char.toLower == "inf".toList then
      some ⟨if negative then -(Int.pow 10 18) else Int.pow 10 18, 0, 3⟩ else none

/-- The value with more places. -/
def withPlaces (x : Step) (places : Nat) : Int := x.scaled * Int.pow 10 (places - x.places)

end Step

/-- A number with a point before its last places. -/
private def pointed (places : Nat) (width : Nat) (n : Int) : Bytes :=
  let ds := Decimal.padded (places + 1) n.natAbs
  let whole := ds.take (ds.length - places)
  let text := if places == 0 then whole else whole ++ '.' :: ds.drop (ds.length - places)
  let sign := if n < 0 then ['-'] else []
  sign ++ List.replicate (width - sign.length - text.length) '0' ++ text

/-- A format for numbers must have one field, and that must be for numbers with a fraction. -/
private def formatFault? (f : Bytes) : Option String :=
  let shown := "format " ++ quote f
  let rec fields : Nat → Bytes → List (Option Char)
    | 0, _ => []
    | _, [] => []
    | fuel + 1, '%' :: '%' :: r => fields fuel r
    | fuel + 1, '%' :: r =>
      let r := r.dropWhile fun c => "-+#0 '".toList.contains c
      let r := (r.dropWhile Char.isDigit)
      let r := match r with
        | '.' :: r => r.dropWhile Char.isDigit
        | r => r
      let r := if r.head? == some 'L' then r.drop 1 else r
      r.head? :: fields fuel (r.drop 1)
    | fuel + 1, _ :: r => fields fuel r
  match fields (f.length + 1) f with
  | [] => some (shown ++ " has no % directive")
  | [some c] => if "efgaEFGA".toList.contains c then none
    else some (shown ++ " has unknown %" ++ c.toString ++ " directive")
  | [none] => some (shown ++ " ends in %")
  | some c :: _ :: _ =>
    if "efgaEFGA".toList.contains c then some (shown ++ " has too many % directives")
    else some (shown ++ " has unknown %" ++ c.toString ++ " directive")
  | none :: _ => some (shown ++ " ends in %")

/-- Prints numbers from one on with marks between them, in pieces, until the last or until nobody
reads them. -/
private def count (shown : Int → Bytes) (mark : Bytes) (step last : Int) :
    Nat → State → Int → Bool → State
  | 0, s, _, _ => s
  | fuel + 1, s, first, isFirst =>
    let left : Nat :=
      if step > 0 then (if last < first then 0 else ((last - first) / step).toNat + 1)
      else if first < last then 0 else ((first - last) / (-step)).toNat + 1
    let now := min left 1024
    let numbers := (List.range now).map fun (i : Nat) => shown (first + (i : Nat) * step)
    let text := (if isFirst || left == 0 then [] else mark) ++ Text.join mark numbers
    let s := s.print text
    if left ≤ now || s.halt.isSome || s.lost.isSome then s
    else count shown mark step last fuel s (first + now * step) false

def seq (s : State) (args : List Bytes) : State :=
  let isNumber (a : Bytes) : Bool := match a with
    | '-' :: c :: _ => c.isDigit || c == '.'
    | _ => false
  let rec splitArgs : List Bytes → List Bytes × List Bytes
    | [] => ([], [])
    | a :: rest =>
      if isNumber a || a.head? != some '-' || a == ['-'] then ([], a :: rest)
      else if a == ['-', '-'] then ([], rest)
      else
        let takesNext := a == ['-', 's'] || a == ['-', 'f'] || a == "--separator".toList ||
          a == "--format".toList
        match takesNext, rest with
        | true, v :: rest => let (o, p) := splitArgs rest; (a :: v :: o, p)
        | _, rest => let (o, p) := splitArgs rest; (a :: o, p)
  let (flags, ps) := splitArgs args
  withFlags "f=/format s=/separator w/equal-width" 1 s flags fun o _ =>
    let bad := ps.find? fun p => (Step.ofBytes? p).isNone
    match ps, bad with
    | [], _ => missing s 1
    | _ :: _ :: _ :: extra :: _, _ => refuse s 1 ("extra operand " ++ quote extra)
    | _, some p => refuse s 1 ("invalid floating point argument: " ++ quote p)
    | ps, none =>
      let one : Step := ⟨1, 0, 1⟩
      let (first, step, last) := match ps.filterMap Step.ofBytes? with
        | [last] => (one, one, last)
        | [first, last] => (first, one, last)
        | [first, step, last] => (first, step, last)
        | _ => (one, one, one)
      match (o.value? "f").bind formatFault? with
      | some message => s.grumble 1 message
      | none =>
        if step.scaled == 0 then
          refuse s 1 ("invalid Zero increment value: " ++ quote (ps.getD 1 []))
        else
          let shown := max first.places step.places
          let places := max shown last.places
          let width := if o.has "w" then
              let firstWidth := first.width + (shown - first.places) +
                (if first.places == 0 && shown > 0 then 1 else 0)
              let lastWidth := last.width + shown - last.places +
                (if last.places == 0 && shown > 0 then 1 else 0) -
                (if last.places > 0 && shown == 0 then 1 else 0)
              max firstWidth lastWidth
            else 0
          let cut := Int.pow 10 (places - shown)
          let text (n : Int) : Bytes := match o.value? "f" with
            | some f => (Format.printf (f.filter (· != 'L')) [pointed places 0 n]).text
            | none => pointed shown width (n.tdiv cut)
          let mark := (o.value? "s").getD ['\n']
          let a := first.withPlaces places
          let d := step.withPlaces places
          let z := last.withPlaces places
          let isEmpty : Bool := if d > 0 then z < a else a < z
          if isEmpty then s
          else (count text mark d z (Nat.pow 2 30) s a true).print ['\n']

/-! ## Factors -/

/-- The prime factors of a number from a divisor on. -/
private def factorsFrom : Nat → Nat → Nat → List Nat
  | 0, _, n => if n > 1 then [n] else []
  | fuel + 1, d, n =>
    if n < d * d then (if n > 1 then [n] else [])
    else if n % d == 0 then d :: factorsFrom fuel d (n / d)
    else factorsFrom fuel (if d == 2 then 3 else d + 2) n

def factor (s : State) (args : List Bytes) : State :=
  let one (s : State) (t : Bytes) : State :=
    let digits := if t.head? == some '+' then t.drop 1 else t
    if isDigits digits then
      let n := ofDigits digits
      let fs := factorsFrom (Nat.pow 2 22) 2 n
      s.print ((toString n).toList ++ ':' :: (fs.flatMap fun f => ' ' :: (toString f).toList) ++
        ['\n'])
    else s.grumble 1 (quote t ++ " is not a valid positive integer")
  withFlags "h/exponents" 1 s args fun _ ps =>
    if ps.isEmpty then
      let (s, t) := s.takeAll 0
      let words :=
        (Bytes.split ' ' (t.map fun c => if isSpace c then ' ' else c)).filter (!·.isEmpty)
      words.foldl one s
    else ps.foldl one s

/-! ## Picking lines -/

/-- Any order of the lines will do, so that they keep the one they have. -/
def shuf (s : State) (args : List Bytes) : State :=
  withFlags "e/echo i=/input-range n=/head-count o=/output r/repeat z/zero-terminated /random-source="
    1 s args fun o ps =>
    let range := (o.value? "i").map fun r => (Bytes.split '-' r).map ofDigits
    let (s, items) : State × List Bytes := match range with
      | some [a, b] => (s, (List.range (b + 1 - a)).map fun i => (toString (a + i)).toList)
      | _ =>
        if o.has "e" then (s, ps)
        else
          let (s, t) := gather s ps 1 plainly
          (s, (Bytes.lines t).map bare)
    let wanted := ((o.value? "n").map ofDigits).getD items.length
    let chosen := if o.has "r" && !items.isEmpty then
        (List.replicate (wanted / items.length + 1) items).flatten.take wanted
      else items.take wanted
    s.print (chosen.flatMap fun l => l ++ ['\n'])

/-! ## Units -/

private def unitLetters : List Char := ['K', 'M', 'G', 'T', 'P', 'E', 'Z', 'Y']

/-- A number in the largest unit that fits; fractions go up. -/
private def inUnits (base : Nat) (ending : Bytes) (n : Nat) : Bytes :=
  let rec go : Nat → Nat → List Char → Bytes
    | 0, _, _ => []
    | _, _, [] => []
    | fuel + 1, unit, c :: units =>
      let tenths := (n * 10 + unit - 1) / unit
      if tenths < 100 then
        (toString (tenths / 10) ++ "." ++ toString (tenths % 10)).toList ++ c :: ending
      else if (n + unit - 1) / unit < base || units.isEmpty then
        (toString ((n + unit - 1) / unit)).toList ++ c :: ending
      else go fuel (unit * base) units
  if n < base then (toString n).toList else go 9 base unitLetters

def numfmt (s : State) (args : List Bytes) : State :=
  withFlags ("d=/delimiter z /debug /field= /format= /from= /from-unit= /grouping /header? " ++
    "/invalid= /padding= /round= /suffix= /to= /to-unit=") 1 s args fun o ps =>
    let value (t : Bytes) : Option Nat :=
      let ds := t.takeWhile Char.isDigit
      let rank := match t.drop ds.length with
        | [] => some 0
        | c :: _ => (unitLetters.findIdx? (· == c.toUpper)).map (· + 1)
      let base := match (o.value? "from").map String.ofList with
        | some "iec" | some "iec-i" => 1024
        | some "si" => 1000
        | some "auto" => if t.contains 'i' then 1024 else 1000
        | _ => 1
      if ds.isEmpty then none
      else rank.bind fun k =>
        if k > 0 && base == 1 then none else some (ofDigits ds * Nat.pow base k)
    let text (n : Nat) : Bytes := match (o.value? "to").map String.ofList with
      | some "iec" => inUnits 1024 [] n
      | some "iec-i" => inUnits 1024 ['i'] n
      | some "si" => inUnits 1000 [] n
      | _ => (toString n).toList
    let padded (t : Bytes) : Bytes := match (o.value? "padding").bind Arithmetic.integer? with
      | some n => if n < 0 then padRight n.natAbs t else padLeft n.toNat t
      | none => t
    let one (s : State) (t : Bytes) : State :=
      match value t with
      | some n => s.print (padded (text n ++ (o.value? "suffix").getD []) ++ ['\n'])
      | none => s.grumble 2 ("invalid number: " ++ quote t)
    if ps.isEmpty then
      let (s, t) := s.takeAll 0
      ((Bytes.lines t).map bare).foldl one s
    else ps.foldl one s

end Graft.Shell.Tool
