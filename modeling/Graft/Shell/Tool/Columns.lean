import Graft.Shell.Tool.Basic

/-!
# Programs for parts of lines

`cut` takes parts of lines, `paste` puts lines side by side, and `tr` exchanges characters.
-/
namespace Graft.Shell.Tool

/-! ## Taking parts of lines -/

/-- Positions from one to another, or to the end. -/
abbrev Ranges := List (Nat × Option Nat)

def Ranges.has (r : Ranges) (n : Nat) : Bool :=
  r.any fun (low, high) => low ≤ n && high.all (n ≤ ·)

private def range? (what : String) (t : Bytes) : Except String (Nat × Option Nat) :=
  let bad : Except String (Nat × Option Nat) :=
    .error ("invalid " ++ what ++ " value " ++ quote t)
  let zero : Except String (Nat × Option Nat) :=
    .error ((if what == "field" then "fields" else "byte/character positions") ++
      " are numbered from 1")
  let low := t.takeWhile (· != '-')
  match t.drop low.length with
  | [] =>
    if low.isEmpty then zero
    else if !low.all Char.isDigit then bad
    else if ofDigits low == 0 then zero
    else .ok (ofDigits low, some (ofDigits low))
  | _ :: high =>
    if !(low ++ high).all Char.isDigit then bad
    else if low.isEmpty && high.isEmpty then .error "invalid range with no endpoint: -"
    else if !low.isEmpty && ofDigits low == 0 then zero
    else
      let first := if low.isEmpty then 1 else ofDigits low
      if high.isEmpty then .ok (first, none)
      else if ofDigits high < first then .error "invalid decreasing range"
      else .ok (first, some (ofDigits high))

private def ranges (what : String) (t : Bytes) : Except String Ranges :=
  (Bytes.split ',' (t.map fun c => if c == ' ' || c == '\t' then ',' else c)).mapM (range? what)

/-- Joins what is selected of numbered parts; parts that do not follow each other are divided. -/
private def selected (isIn : Nat → Bool) (parts : List Bytes) : List (Nat × Bytes) :=
  (parts.zipIdx.map fun (p, n) => (n + 1, p)).filter fun (n, _) => isIn n

private def joinRuns (divider : Bytes) (starts : Nat → Bool) : List (Nat × Bytes) → Bytes
  | [] => []
  | (_, first) :: rest =>
    first ++ rest.flatMap fun (n, p) => if starts n then divider ++ p else p

def cut (s : State) (args : List Bytes) : State :=
  withFlags ("b=/bytes c=/characters d=/delimiter f=/fields n s/only-delimited z/zero-terminated " ++
    "/complement /output-delimiter=") 1 s args fun o paths =>
    let kinds := o.filter fun (k, _) => k == "b" || k == "c" || k == "f"
    match kinds with
    | [] => refuse s 1 "you must specify a list of bytes, characters, or fields"
    | _ :: _ :: _ => refuse s 1 "only one list may be specified"
    | [(kind, v)] =>
      let byFields := kind == "f"
      let delimiter := (o.value? "d").getD ['\t']
      if !byFields && o.has "d" then
        refuse s 1 "an input delimiter may be specified only when operating on fields"
      else if !byFields && o.has "s" then
        refuse s 1 ("suppressing non-delimited lines makes sense\n" ++
          "\tonly when operating on fields")
      else if delimiter.length > 1 then refuse s 1 "the delimiter must be a single character"
      else
        match ranges (if byFields then "field" else "byte or character") (v.getD []) with
        | .error message => refuse s 1 message
        | .ok rs =>
          let mark := delimiter.headD (Char.ofNat 0)
          let terminator : Char := if o.has "z" then Char.ofNat 0 else '\n'
          let isIn (n : Nat) : Bool := rs.has n != o.has "complement"
          let divider := (o.value? "output-delimiter").getD [mark]
          let cutLine (l : Bytes) : Option Bytes :=
            if byFields then
              match Bytes.split mark l with
              | [_] => if o.has "s" then none else some l
              | fields => some (Text.join divider ((selected isIn fields).map (·.2)))
            else
              let starts (n : Nat) : Bool := match o.value? "output-delimiter" with
                | some _ =>
                  if o.has "complement" then !isIn (n - 1) else !isIn (n - 1) || rs.any (·.1 == n)
                | none => false
              some (joinRuns divider starts (selected isIn (l.map ([·]))))
          forEachFile s paths 1 plainly fun s _ t =>
            let parts := Bytes.split terminator t
            let ls := if parts.getLast? == some [] then parts.dropLast else parts
            s.print ((ls.filterMap cutLine).map (· ++ [terminator])).flatten

/-! ## Putting lines side by side -/

/-- The dividers that a list of them means. -/
private def dividers : Bytes → List Bytes
  | '\\' :: c :: r =>
    (match c with
      | 'n' => ['\n']
      | 't' => ['\t']
      | '0' => []
      | 'b' => [Char.ofNat 8]
      | 'f' => [Char.ofNat 12]
      | 'r' => ['\r']
      | 'v' => [Char.ofNat 11]
      | c => [c]) :: dividers r
  | c :: r => [c] :: dividers r
  | [] => []

/-- Divides items by dividers that are used in turn. -/
private def joinBy (all : List Bytes) : List Bytes → List Bytes → Bytes
  | _, [] => []
  | _, [last] => last
  | ds, item :: rest =>
    let ds := if ds.isEmpty then all else ds
    item ++ ds.headD [] ++ joinBy all ds.tail rest

/-- Takes the first line of each column that has one. Columns that share an input take turns. -/
private def takeRow (columns : List Nat) (inputs : List (List Bytes)) :
    List Bytes × List (List Bytes) × Bool :=
  columns.foldl (fun (row, inputs, any) k =>
    match inputs.getD k [] with
    | l :: rest => (row ++ [bare l], inputs.set k rest, true)
    | [] => (row ++ [[]], inputs, any)) ([], inputs, false)

private def rows (join : List Bytes → Bytes) (columns : List Nat) :
    Nat → List Bytes → List (List Bytes) → Bytes
  | 0, done, _ => done.reverse.flatten
  | fuel + 1, done, inputs =>
    match takeRow columns inputs with
    | (row, inputs, true) => rows join columns fuel ((join row ++ ['\n']) :: done) inputs
    | _ => done.reverse.flatten

def paste (s : State) (args : List Bytes) : State :=
  withFlags "d=/delimiters s/serial z/zero-terminated" 1 s args fun o operands =>
    let all := match o.value? "d" with
      | some v => dividers v
      | none => [['\t']]
    let all := if all.isEmpty then [[]] else all
    let paths := if operands.isEmpty then [['-']] else operands
    if o.has "s" then
      forEachFile s paths 1 plainly fun s _ t =>
        s.print (joinBy all all ((Bytes.lines t).map bare) ++ ['\n'])
    else
      let distinct := paths.zipIdx.filter fun (p, n) => p != ['-'] || paths.idxOf p == n
      let (s, inputs) := (distinct.map (·.1)).foldl (fun (s, inputs) p =>
        match content s p with
        | (s, .ok t) => (s, inputs ++ [Bytes.lines t])
        | (s, .error reason) => (s.grumble 1 (plainly p reason), inputs ++ [[]]))
        (s, ([] : List (List Bytes)))
      if s.status != 0 then s
      else
        let columns := paths.zipIdx.map fun (p, n) =>
          distinct.idxOf (p, if p == ['-'] then paths.idxOf p else n)
        let count := (inputs.map List.length).foldl (· + ·) 0 + 1
        s.print (rows (joinBy all all) columns count [] inputs)

/-! ## Exchanging characters -/

/-- A part of a set of characters. -/
inductive SetPart where
  | chars (cs : Bytes)
  | named (name : Bytes)
  /-- A character so many times, or as often as needed. -/
  | repeated (c : Char) (count : Option Nat)

private def classChars? (name : Bytes) : Option Bytes :=
  (charClass? (String.ofList name)).map fun isIn => ((List.range 256).map Char.ofNat).filter isIn

/-- The first character of a set, escapes replaced, and what follows. -/
private def setChar : Bytes → Option (Char × Bytes)
  | [] => none
  | '\\' :: c :: r =>
    match c with
    | 'a' => some (Char.ofNat 7, r)
    | 'b' => some (Char.ofNat 8, r)
    | 'f' => some (Char.ofNat 12, r)
    | 'n' => some ('\n', r)
    | 'r' => some ('\r', r)
    | 't' => some ('\t', r)
    | 'v' => some (Char.ofNat 11, r)
    | c =>
      let isOctal (c : Char) : Bool := '0' ≤ c && c ≤ '7'
      if isOctal c then
        let ds := ((c :: r).take 3).takeWhile isOctal
        let value (ds : Bytes) : Nat := ds.foldl (fun n d => 8 * n + (d.toNat - '0'.toNat)) 0
        let ds := if value ds > 255 then ds.take 2 else ds
        some (Char.ofNat (value ds), (c :: r).drop ds.length)
      else some (c, r)
  | c :: r => some (c, r)

private def between (low high : Char) : Bytes :=
  (List.range (high.toNat - low.toNat + 1)).map fun n => Char.ofNat (low.toNat + n)

/-- A class, an equivalence or a repetition in brackets, and what follows. -/
private def bracket? (t : Bytes) : Except String (Option (SetPart × Bytes)) :=
  match t with
  | '[' :: ':' :: r =>
    let name := r.takeWhile (· != ':')
    match r.drop name.length with
    | ':' :: ']' :: rest =>
      if name.isEmpty then .error "missing character class name '[::]'"
      else if (classChars? name).isSome then .ok (some (.named name, rest))
      else .error ("invalid character class " ++ quote name)
    | _ => .ok none
  | '[' :: '=' :: c :: '=' :: ']' :: rest => .ok (some (.chars [c], rest))
  | '[' :: r =>
    match setChar r with
    | some (c, '*' :: r) =>
      let ds := r.takeWhile Char.isDigit
      match r.drop ds.length with
      | ']' :: rest =>
        let base := if ds.head? == some '0' then 8 else 10
        let n := ds.foldl (fun n d => base * n + (d.toNat - '0'.toNat)) 0
        .ok (some (.repeated c (if n == 0 then none else some n), rest))
      | _ => .ok none
    | _ => .ok none
  | _ => .ok none

/-- The parts of a set. -/
private def setParts : Nat → Bytes → Except String (List SetPart)
  | 0, _ => .ok []
  | _, [] => .ok []
  | fuel + 1, t => do
    match ← bracket? t with
    | some (p, rest) => return p :: (← setParts fuel rest)
    | none =>
      match setChar t with
      | none => return []
      | some (low, '-' :: r) =>
        match setChar r with
        | none => return .chars [low, '-'] :: (← setParts fuel [])
        | some (high, rest) =>
          if high < low then
            .error ("range-endpoints of '" ++ String.ofList [low, '-', high] ++
              "' are in reverse collating sequence order")
          else return .chars (between low high) :: (← setParts fuel rest)
      | some (c, rest) => return .chars [c] :: (← setParts fuel rest)

/-- The characters of a set; one that is repeated as often as needed fills it up to a size. -/
private def setChars (size : Nat) (ps : List SetPart) : Bytes :=
  let fixed := (ps.map fun
    | .chars cs => cs.length
    | .named n => ((classChars? n).getD []).length
    | .repeated _ count => count.getD 0).foldl (· + ·) 0
  ps.flatMap fun
    | .chars cs => cs
    | .named n => (classChars? n).getD []
    | .repeated c count => List.replicate (count.getD (size - fixed)) c

/-- Leaves one of each run of a character of the set. -/
private def squeeze (isIn : Char → Bool) (t : Bytes) : Bytes :=
  (t.foldl (fun done c =>
    if isIn c && done.head? == some c then done else c :: done) ([] : Bytes)).reverse

private def isNamed (name : String) : SetPart → Bool
  | .named n => n == name.toList
  | _ => false

/-- Exchanges, deletes or squeezes characters. -/
def tr (s : State) (args : List Bytes) : State :=
  withFirstFlags "c/complement C d/delete s/squeeze-repeats t/truncate-set1" 1 s args fun o sets =>
    let deletes := o.has "d"
    let squeezes := o.has "s"
    let complement := o.has "c" || o.has "C"
    let most := if deletes && !squeezes then 1 else 2
    let least := if deletes == squeezes then 2 else 1
    match sets with
    | [] => refuse s 1 "missing operand"
    | first :: rest =>
      if sets.length < least then
        refuse s 1 ("missing operand after " ++ quote first ++ "\n" ++
          (if squeezes then "Two strings must be given when both deleting and squeezing repeats."
          else "Two strings must be given when translating."))
      else if sets.length > most then
        refuse s 1 ("extra operand " ++ quote (sets.getD most []) ++
          (if most == 1 then
            "\nOnly one string may be given when deleting without squeezing repeats." else ""))
      else
        let parsed := do
          let one ← setParts (first.length + 1) first
          let two ← setParts ((rest.headD []).length + 1) (rest.headD [])
          return (one, two)
        match parsed with
        | .error message => s.grumble 1 message
        | .ok (one, two) =>
          let translates := !deletes && !rest.isEmpty
          let isCase (p : SetPart) : Bool := isNamed "upper" p || isNamed "lower" p
          let isOther : SetPart → Bool
            | .named n => n != "upper".toList && n != "lower".toList
            | _ => false
          if one.any (fun p => match p with
              | .repeated _ none => true
              | _ => false) then
            s.grumble 1 "the [c*] repeat construct may not appear in string1"
          else if translates && two.any isOther then
            s.grumble 1 ("when translating, the only character classes that may appear in\n" ++
              "string2 are 'upper' and 'lower'")
          else
            let chars := setChars 0 one
            let chars := if complement then
                ((List.range 256).map Char.ofNat).filter (!chars.contains ·)
              else chars
            let target := setChars chars.length two
            let table := (List.range 256).map fun n => chars.contains (Char.ofNat n)
            let inOne : Array Bool := table.toArray
            let isOne (c : Char) : Bool := inOne.getD c.toNat false
            let misaligned := translates && two.any isCase && !one.any isCase
            if misaligned then s.grumble 1 "misaligned [:upper:] and/or [:lower:] construct"
            else if translates && target.isEmpty && !o.has "t" then
              s.grumble 1 "when not truncating set1, string2 must be non-empty"
            else
              let (s, t) := s.takeAll 0
              let out :=
                if deletes then
                  let t := t.filter (!isOne ·)
                  if squeezes then squeeze target.contains t else t
                else if !translates then squeeze isOne t
                else
                  let last := target.getLast?.getD (Char.ofNat 0)
                  let pairs := if o.has "t" then chars.zip target
                    else chars.zip (target ++ List.replicate (chars.length - target.length) last)
                  let map : Array Char := pairs.foldl
                    (fun (m : Array Char) (a, b) => m.setIfInBounds a.toNat b)
                    ((List.range 256).map Char.ofNat).toArray
                  let t := t.map fun c => map.getD c.toNat c
                  if squeezes then squeeze target.contains t else t
              s.print out

end Graft.Shell.Tool
