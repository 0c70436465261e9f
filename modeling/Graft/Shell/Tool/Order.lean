import Graft.Data.Decimal
import Graft.Shell.Tool.Basic

/-!
# Programs for sorted lines

`sort` puts lines in order, by keys in them or as a whole; `uniq`, `comm`, `join` and `tsort` work on
lines that are in order or bring words into one.
-/
namespace Graft.Shell.Tool

/-! ## Orders -/

/-- A decimal number at the beginning of a text: its sign, its digits without zeros in front, and
its places without zeros behind. -/
structure Numeral where
  negative : Bool
  whole : Bytes
  places : Bytes
  deriving DecidableEq, Repr

private def isBlank (c : Char) : Bool := c == ' ' || c == '\t'

def Numeral.ofBytes (t : Bytes) : Numeral :=
  let t := t.dropWhile fun c => isBlank c || c == '\n'
  let (negative, t) := match t with
    | '-' :: r => (true, r)
    | t => (false, t)
  let whole := t.takeWhile Char.isDigit
  let places := match t.drop whole.length with
    | '.' :: r => r.takeWhile Char.isDigit
    | _ => []
  let whole := whole.dropWhile (· == '0')
  let places := (places.reverse.dropWhile (· == '0')).reverse
  ⟨negative && !(whole.isEmpty && places.isEmpty), whole, places⟩

def compareBytes (a b : Bytes) : Ordering := Location.compareText a b

def Numeral.compare (a b : Numeral) : Ordering :=
  let size : Ordering :=
    if a.whole.length != b.whole.length then Ord.compare a.whole.length b.whole.length
    else (compareBytes a.whole b.whole).then (compareBytes a.places b.places)
  match a.negative, b.negative with
  | false, false => size
  | true, true => size.swap
  | true, false => .lt
  | false, true => .gt

private def months : List String :=
  ["JAN", "FEB", "MAR", "APR", "MAY", "JUN", "JUL", "AUG", "SEP", "OCT", "NOV", "DEC"]

private def monthOf (t : Bytes) : Nat :=
  let name := String.ofList (((t.dropWhile isBlank).take 3).map Char.toUpper)
  match months.findIdx? (· == name) with
  | some n => n + 1
  | none => 0

/-- The rank of the unit behind a number. -/
private def unitRank (t : Bytes) : Nat :=
  let t := t.dropWhile isBlank
  let t := if t.head? == some '-' then t.tail else t
  let t := t.dropWhile fun c => c.isDigit || c == '.'
  match t.head? with
  | some c => match "KMGTPEZY".toList.findIdx? (· == (if c == 'k' then 'K' else c)) with
    | some n => n + 1
    | none => 0
  | none => 0

private def compareHuman (a b : Bytes) : Ordering :=
  let x := Numeral.ofBytes a
  let y := Numeral.ofBytes b
  let rank (n : Numeral) (t : Bytes) : Int :=
    if n.whole.isEmpty && n.places.isEmpty then 0
    else if n.negative then -(unitRank t : Int) else unitRank t
  let signed (n : Numeral) : Int := if n.negative then -1
    else if n.whole.isEmpty && n.places.isEmpty then 0 else 1
  (Ord.compare (signed x) (signed y)).then
    ((Ord.compare (rank x a) (rank y b)).then (x.compare y))

private def floatOf (t : Bytes) : Option Float :=
  let t := t.dropWhile isSpace
  let (negative, r) := match t with
    | '-' :: r => (true, r)
    | '+' :: r => (false, r)
    | r => (false, r)
  (Decimal.leading? r).map fun (m, e, _) =>
    let x := Decimal.toFloat m e
    if negative then -x else x

private def compareGeneral (a b : Bytes) : Ordering :=
  match floatOf a, floatOf b with
  | none, none => .eq
  | none, some _ => .lt
  | some _, none => .gt
  | some x, some y => if x < y then .lt else if y < x then .gt else .eq

/-- The rank of a character in the order of versions. -/
private def versionRank (c : Option Char) : Int :=
  match c with
  | none => -1
  | some c =>
    if c.isDigit then 0
    else if c.isAlpha then c.toNat
    else if c == '~' then -2
    else c.toNat + 256

/-- Compares versions: digits by their value, all else character by character. -/
private def compareVersion : Nat → Bytes → Bytes → Ordering
  | 0, _, _ => .eq
  | fuel + 1, a, b =>
    if a.isEmpty && b.isEmpty then .eq
    else
      let isText (t : Bytes) : Bool := t.head?.any (!·.isDigit)
      if isText a || isText b then
        let x := versionRank (if isText a || a.isEmpty then a.head? else some '0')
        let y := versionRank (if isText b || b.isEmpty then b.head? else some '0')
        if x == y then compareVersion fuel a.tail b.tail else Ord.compare x y
      else
        let digits (t : Bytes) : Bytes := (t.takeWhile Char.isDigit).dropWhile (· == '0')
        let x := digits a
        let y := digits b
        let here := (Ord.compare x.length y.length).then (compareBytes x y)
        if here == .eq then
          compareVersion fuel (a.dropWhile Char.isDigit) (b.dropWhile Char.isDigit)
        else here

/-- A name without the ending that begins with a dot and a letter. -/
private def versionStem (t : Bytes) : Bytes :=
  let isEnding (p : Bytes) : Bool := match p with
    | '.' :: c :: r => (c.isAlpha || c == '~') && r.all fun x => x.isAlphanum || x == '~'
    | _ => false
  let parts := Bytes.split '.' t
  let kept := (List.range parts.length).find? fun k =>
    k ≥ 1 && (parts.drop k).all fun p => isEnding ('.' :: p)
  match kept with
  | some k => Text.join ['.'] (parts.take k)
  | none => t

def compareVersions (a b : Bytes) : Ordering :=
  if a == b then .eq
  else
    let special (t : Bytes) : Nat :=
      if t.isEmpty then 0 else if t == ['.'] then 1 else if t == ['.', '.'] then 2
      else if t.head? == some '.' then 3 else 4
    let size := a.length + b.length + 2
    (Ord.compare (special a) (special b)).then
      ((compareVersion size (versionStem a) (versionStem b)).then (compareVersion size a b))

/-! ## Sorting -/

/-- How texts are compared. -/
structure Collation where
  kind : Option Char
  blanks : Bool
  endBlanks : Bool
  dictionary : Bool
  folded : Bool
  printable : Bool
  reversed : Bool
  deriving DecidableEq, Repr

private def plainOrder : Collation := ⟨none, false, false, false, false, false, false⟩

/-- Adds what a letter says about an order. -/
private def Collation.add (o : Collation) (atStart : Bool) (c : Char) : Option Collation :=
  match c with
  | 'b' => some (if atStart then { o with blanks := true } else { o with endBlanks := true })
  | 'd' => some { o with dictionary := true }
  | 'f' => some { o with folded := true }
  | 'i' => some { o with printable := true }
  | 'r' => some { o with reversed := true }
  | 'g' | 'h' | 'M' | 'n' | 'R' | 'V' => some { o with kind := some c }
  | _ => none

private def Collation.isPlain (o : Collation) : Bool :=
  { o with reversed := false, endBlanks := false } == plainOrder && !o.reversed && !o.endBlanks

private def Collation.compare (o : Collation) (a b : Bytes) : Ordering :=
  let prepare (t : Bytes) : Bytes :=
    let t := if o.dictionary then t.filter fun c => c.isAlphanum || isBlank c
      else if o.printable then t.filter fun c => ' ' ≤ c && c ≤ '~'
      else t
    if o.folded then t.map Char.toUpper else t
  let result := match o.kind with
    | some 'n' => (Numeral.ofBytes a).compare (.ofBytes b)
    | some 'h' => compareHuman a b
    | some 'g' => compareGeneral a b
    | some 'M' => Ord.compare (monthOf a) (monthOf b)
    | some 'V' => compareVersions a b
    | _ => compareBytes (prepare a) (prepare b)
  if o.reversed then result.swap else result

/-- A key: from a character of a field to a character of another. -/
structure SortKey where
  field : Nat
  char : Nat
  last : Option (Nat × Nat)
  order : Collation

/-- What follows so many fields. -/
private def afterFields (tab : Option Char) : Nat → Bytes → Bytes
  | 0, t => t
  | n + 1, t =>
    match tab with
    | some c => afterFields tab n ((t.dropWhile (· != c)).drop 1)
    | none => afterFields tab n ((t.dropWhile isBlank).dropWhile (!isBlank ·))

/-- How long a text is up to the end of so many fields, with the mark behind the last one or without
it. -/
private def sizeOfFields (tab : Option Char) (keepsMark : Bool) : Nat → Bytes → Nat
  | 0, _ => 0
  | n + 1, t =>
    match tab with
    | some c =>
      let field := (t.takeWhile (· != c)).length
      let mark := if field < t.length && (0 < n || keepsMark) then 1 else 0
      field + mark + sizeOfFields tab keepsMark n (t.drop (field + mark))
    | none =>
      let rest := (t.dropWhile isBlank).dropWhile (!isBlank ·)
      t.length - rest.length + sizeOfFields tab keepsMark n rest

/-- The part of a line that a key means. -/
private def SortKey.part (k : SortKey) (tab : Option Char) (l : Bytes) : Bytes :=
  let start := afterFields tab k.field l
  let start := if k.order.blanks then start.dropWhile isBlank else start
  let start := start.drop k.char
  let first := l.length - start.length
  match k.last with
  | none => start
  | some (field, char) =>
    let stop := if char == 0 then sizeOfFields tab false (field + 1) l
      else
        let size := sizeOfFields tab true field l
        let rest := l.drop size
        let blanks := if k.order.endBlanks then (rest.takeWhile isBlank).length else 0
        min l.length (size + blanks + char)
    start.take (stop - first)

/-- Letters at the beginning of a text that say something about an order. -/
private def orderLetters (atStart : Bool) : Collation → Bytes → Collation × Bytes
  | o, c :: r =>
    match o.add atStart c with
    | some o => orderLetters atStart o r
    | none => (o, c :: r)
  | o, [] => (o, [])

private def sortKey? (t : Bytes) : Except String SortKey := do
  let number (t : Bytes) (what : String) : Except String (Nat × Bytes) :=
    let ds := t.takeWhile Char.isDigit
    if ds.isEmpty then .error (what ++ ": invalid count at start of " ++ quote t)
    else .ok (ofDigits ds, t.drop ds.length)
  let bad {α : Type} (why : String) : Except String α :=
    .error (why ++ ": invalid field specification " ++ quote t)
  let (field, r) ← number t "invalid number at field start"
  if field == 0 then bad "field number is zero"
  let (char, r) ← match r with
    | '.' :: r => do
      let (n, r) ← number r "invalid number after '.'"
      if n == 0 then bad "character offset is zero" else pure (n - 1, r)
    | r => pure (0, r)
  let (order, r) := orderLetters true plainOrder r
  match r with
  | [] => return ⟨field - 1, char, none, order⟩
  | ',' :: r => do
    let (last, r) ← number r "invalid number after ','"
    if last == 0 then bad "field number is zero"
    let (stop, r) ← match r with
      | '.' :: r => number r "invalid number after '.'"
      | r => pure (0, r)
    let (order, r) := orderLetters false order r
    if r.isEmpty then return ⟨field - 1, char, some (last - 1, stop), order⟩
    else bad "stray character in field spec"
  | _ => bad "stray character in field spec"

/-- Drops lines that compare equal to the one before. -/
private def distinct (same : Bytes → Bytes → Bool) (ls : List Bytes) : List Bytes :=
  (ls.foldl (fun done l =>
    match done.head? with
    | some before => if same before l then done else l :: done
    | none => [l]) ([] : List Bytes)).reverse

/-- Merges two lists that are in order. -/
private def mergeTwo (notAfter : Bytes → Bytes → Bool) :
    Nat → List Bytes → List Bytes → List Bytes → List Bytes
  | 0, done, a, b => done.reverse ++ a ++ b
  | _, done, [], b => done.reverse ++ b
  | _, done, a, [] => done.reverse ++ a
  | fuel + 1, done, x :: a, y :: b =>
    if notAfter x y then mergeTwo notAfter fuel (x :: done) a (y :: b)
    else mergeTwo notAfter fuel (y :: done) (x :: a) b

/-- The first line that is not in order behind the one before, with its number. -/
private def disorder? (inOrder : Bytes → Bytes → Bool) : Nat → List Bytes → Option (Nat × Bytes)
  | n, a :: b :: rest =>
    if inOrder a b then disorder? inOrder (n + 1) (b :: rest) else some (n + 1, b)
  | _, _ => none

/-- An old-fashioned key of fields that are counted from 0. -/
private def sortFlags : String :=
  "b/ignore-leading-blanks d/dictionary-order f/ignore-case g/general-numeric-sort " ++
    "h/human-numeric-sort i/ignore-nonprinting M/month-sort n/numeric-sort R/random-sort " ++
    "r/reverse V/version-sort c/check? C k=/key m/merge o=/output s/stable S=/buffer-size " ++
    "t=/field-separator T=/temporary-directory u/unique z/zero-terminated /sort= /parallel= /debug"

def sort (s : State) (args : List Bytes) : State :=
  withFlags sortFlags 2 s args fun o paths =>
    match (o.values "k").mapM sortKey? with
    | .error message => s.grumble 2 message
    | .ok keys =>
      let global := o.foldl (fun order (k, _) =>
        match k.toList with
        | [c] => (order.add true c).getD order
        | _ => order) plainOrder
      let tabText := o.value? "t"
      let tab := tabText.bind fun t => if t == ['\\', '0'] then some (Char.ofNat 0) else t.head?
      if tabText.any fun t => t.length > 1 && t != ['\\', '0'] then
        s.grumble 2 ("multi-character tab " ++ quote (tabText.getD []))
      else if tabText == some [] then s.grumble 2 "empty tab"
      else
        let keys := keys.map fun k =>
          if k.order.isPlain then
            { k with order := { global with endBlanks := global.blanks } }
          else k
        let byKeys (a b : Bytes) : Ordering :=
          if keys.isEmpty then
            if global.blanks && global.kind.isNone then
              global.compare (a.dropWhile isBlank) (b.dropWhile isBlank)
            else global.compare a b
          else
            keys.foldl (fun result k =>
              if result == .eq then k.order.compare (k.part tab a) (k.part tab b) else result) .eq
        let whole (a b : Bytes) : Ordering :=
          if o.has "s" || o.has "u" then .eq
          else if global.reversed then (compareBytes a b).swap else compareBytes a b
        let compare (a b : Bytes) : Ordering := (byKeys a b).then (whole a b)
        let terminator : Char := if o.has "z" then Char.ofNat 0 else '\n'
        let linesOf (t : Bytes) : List Bytes :=
          let parts := Bytes.split terminator t
          if parts.getLast? == some [] then parts.dropLast else parts
        let complaint (p : Bytes) (reason : String) : String :=
          if reason == "Is a directory" then "read failed: " ++ quoteIfWild p ++ ": " ++ reason
          else "cannot read: " ++ quoteIfWild p ++ ": " ++ reason
        let paths := if paths.isEmpty then [['-']] else paths
        let (s, texts) := paths.foldl (fun (s, ts) p =>
          if s.status != 0 then (s, ts)
          else
            match content s p with
            | (s, .ok t) => (s, ts ++ [linesOf t])
            | (s, .error reason) => (s.grumble 2 (complaint p reason), ts))
          (s, ([] : List (List Bytes)))
        if s.status != 0 then s
        else if o.has "c" || o.has "C" then
          let inOrder (a b : Bytes) : Bool :=
            if o.has "u" then byKeys a b == .lt else compare a b != .gt
          match disorder? inOrder 1 texts.flatten with
          | none => s
          | some (n, l) =>
            let quiet := o.has "C" || (o.value? "c").any fun v => v != "diagnose-first".toList
            if quiet then s.finish 1
            else s.grumble 1 (String.ofList (paths.headD []) ++ ":" ++ toString n ++
              ": disorder: " ++
              String.ofList l)
        else
          let notAfter (a b : Bytes) : Bool := compare a b != .gt
          let sorted := if o.has "m" then
              texts.foldl (fun a b => mergeTwo notAfter (a.length + b.length + 1) [] a b) []
            else texts.flatten.mergeSort notAfter
          let sorted := if o.has "u" then distinct (fun a b => byKeys a b == .eq) sorted else sorted
          let out := (sorted.map (· ++ [terminator])).flatten
          match o.value? "o" with
          | none => s.print out
          | some p =>
            match s.place p with
            | .ok l => s.store l false out
            | .error f => s.grumble 2 ("open failed: " ++ quoteIfWild p ++ ": " ++ f.reason)

/-! ## Neighbours -/

/-- Lines that count as equal, one after another. -/
private def runs (same : Bytes → Bytes → Bool) (ls : List Bytes) : List (List Bytes) :=
  ((ls.foldl (fun done l =>
    match done with
    | (x :: xs) :: rest => if same x l then (l :: x :: xs) :: rest else [l] :: (x :: xs) :: rest
    | _ => [l] :: done) ([] : List (List Bytes))).map List.reverse).reverse

private def skipFields : Nat → Bytes → Bytes
  | 0, t => t
  | n + 1, t => skipFields n ((t.dropWhile isBlank).dropWhile (!isBlank ·))

def uniq (s : State) (args : List Bytes) : State :=
  withFlags ("c/count d/repeated D /all-repeated? f=/skip-fields i/ignore-case s=/skip-chars " ++
    "u/unique w=/check-chars z/zero-terminated /group?") 1 s args fun o operands =>
    let terminator : Char := if o.has "z" then Char.ofNat 0 else '\n'
    let number (key : String) : Option Nat := (o.value? key).map ofDigits
    let bad := [("f", "fields to skip"), ("s", "bytes to skip"), ("w", "bytes to compare")].find?
      fun (k, _) => (o.value? k).any (!isDigits ·)
    let key (l : Bytes) : Bytes :=
      let l := (skipFields ((number "f").getD 0) l).drop ((number "s").getD 0)
      let l := match number "w" with
        | some n => l.take n
        | none => l
      if o.has "i" then l.map Char.toUpper else l
    match bad, operands with
    | some (k, what), _ =>
      s.grumble 1 (String.ofList ((o.value? k).getD []) ++ ": invalid number of " ++ what)
    | none, _ :: _ :: extra :: _ => refuse s 1 ("extra operand " ++ quote extra)
    | none, operands =>
      match content s (operands.headD ['-']) with
      | (s, .error reason) => s.grumble 1 (plainly (operands.headD ['-']) reason)
      | (s, .ok t) =>
        let parts := Bytes.split terminator t
        let ls := if parts.getLast? == some [] then parts.dropLast else parts
        let groups := runs (fun a b => key a == key b) ls
        let everything := o.has "D" || o.has "all-repeated"
        let shown (g : List Bytes) : List Bytes :=
          let repeated := g.length > 1
          if everything then (if repeated then g else [])
          else if (o.has "d" && !repeated) || (o.has "u" && repeated) then []
          else
            let count := if o.has "c" then padLeft 7 (toString g.length).toList ++ [' '] else []
            [count ++ g.headD []]
        let kept := (groups.map shown).filter (!·.isEmpty)
        let method := String.ofList ((o.value? "all-repeated").getD [])
        let divided := match method with
          | "prepend" => kept.map ([] :: ·)
          | "separate" => (kept.head?.toList) ++ (kept.drop 1).map ([] :: ·)
          | _ => kept
        let out := (divided.flatten.map (· ++ [terminator])).flatten
        match operands with
        | [_, p] =>
          match s.place p with
          | .ok l => s.store l false out
          | .error f => s.grumble 1 (plainly p f.reason)
        | _ => s.print out

/-- What happens when the lines of two files are compared. -/
private inductive Compared where
  /-- A line that is only in the first file, only in the second, or in both. -/
  | line (side : Nat) (l : Bytes)
  /-- A file turns out not to be in order. -/
  | disorder (file : Nat)

/-- One of the files that are compared: its lines, and the two lines before them. -/
private structure Followed where
  lines : List Bytes
  last : Option Bytes
  beforeLast : Option Bytes
  isWarned : Bool

/-- Takes a line from a file and looks whether the next is in order. -/
private def Followed.step (f : Followed) (checks : Bool) : Followed × Bool :=
  match f.lines with
  | [] => (f, false)
  | l :: rest =>
    let isWrong (a b : Bytes) : Bool := checks && !f.isWarned && compareBytes a b == .gt
    let wrong := match rest, f.last with
      | next :: _, _ => isWrong l next
      | [], some before => isWrong before l
      | [], none => false
    (⟨rest, some l, f.last, f.isWarned || wrong⟩, wrong)

/-- Compares the lines of two files. Files have to be in order as soon as `strict`, or once a line
is only in one of them. -/
private def compareSides (strict lenient : Bool) :
    Nat → Bool → List Compared → Followed → Followed → List Compared
  | 0, _, done, _, _ => done.reverse
  | fuel + 1, unpaired, done, a, b =>
    let side? : Option (Nat × Bytes) := match a.lines, b.lines with
      | [], [] => none
      | x :: _, [] => some (0, x)
      | [], y :: _ => some (1, y)
      | x :: _, y :: _ =>
        some (match compareBytes x y with
          | .lt => (0, x)
          | .gt => (1, y)
          | .eq => (2, y))
    match side? with
    | none => done.reverse
    | some (side, l) =>
      let unpaired := unpaired || side != 2
      let checks := !lenient && (strict || unpaired)
      let (a, wrongA) := if side == 1 then (a, false) else a.step checks
      let (b, wrongB) := if side == 0 then (b, false) else b.step checks
      let done := .line side l :: done
      let done := if wrongA then .disorder 1 :: done else done
      let done := if wrongB then .disorder 2 :: done else done
      if strict && (wrongA || wrongB) then done.reverse
      else compareSides strict lenient fuel unpaired done a b

def comm (s : State) (args : List Bytes) : State :=
  withFlags "1 2 3 z/zero-terminated /check-order /nocheck-order /output-delimiter= /total" 1 s args
    fun o operands =>
    match operands with
    | [] => refuse s 1 "missing operand"
    | [a] => refuse s 1 ("missing operand after " ++ quote a)
    | _ :: _ :: extra :: _ => refuse s 1 ("extra operand " ++ quote extra)
    | [a, b] =>
      match content s a with
      | (s, .error reason) => s.grumble 1 (plainly a reason)
      | (s, .ok t) =>
        match content s b with
        | (s, .error reason) => s.grumble 1 (plainly b reason)
        | (s, .ok u) =>
          let mark := if o.has "z" then Char.ofNat 0 else '\n'
          let linesOf (t : Bytes) : List Bytes :=
            let parts := Bytes.split mark t
            if parts.getLast? == some [] then parts.dropLast else parts
          let left := linesOf t
          let right := linesOf u
          let order := o.last? ["check-order", "nocheck-order"]
          let events := compareSides (order == some "check-order") (order == some "nocheck-order")
            (left.length + right.length + 1) false [] ⟨left, none, none, false⟩
            ⟨right, none, none, false⟩
          let hidden (k : Nat) : Bool := o.has (toString (k + 1))
          let divider := (o.value? "output-delimiter").getD ['\t']
          let indent (k : Nat) : Bytes :=
            ((List.range k).filter (!hidden ·)).flatMap fun _ => divider
          let s := events.foldl (fun s e =>
            match e with
            | .line k l => if hidden k then s else s.print (indent k ++ l ++ [mark])
            | .disorder n => s.grumble 1 ("file " ++ toString n ++ " is not in sorted order")) s
          let count (k : Nat) : Bytes :=
            (toString (events.countP fun e => match e with
              | .line j _ => j == k
              | .disorder _ => false)).toList
          if s.status != 0 && order == some "check-order" then s
          else
            let s := if o.has "total" then
                s.print (Text.join divider [count 0, count 1, count 2, "total".toList] ++ [mark])
              else s
            if s.status == 0 then s else s.grumble 1 "input is not in sorted order"

/-! ## Joining -/

private def fieldsBy (tab : Option Char) (l : Bytes) : List Bytes :=
  match tab with
  | some c => Bytes.split c l
  | none =>
    ((Bytes.split ' ' (l.map fun c => if c == '\t' then ' ' else c)).filter (!·.isEmpty))

/-- A line of a file in fields, with the one that is joined on. -/
structure JoinLine where
  key : Bytes
  fields : List Bytes

/-- Pairs of lines with one key, and lines without a partner. -/
private def joinSides (compare : Bytes → Bytes → Ordering) :
    Nat → List JoinLine → List JoinLine → List (Option JoinLine × Option JoinLine)
  | 0, _, _ => []
  | _, [], b => b.map fun y => (none, some y)
  | _, a, [] => a.map fun x => (some x, none)
  | fuel + 1, x :: a, y :: b =>
    match compare x.key y.key with
    | .lt => (some x, none) :: joinSides compare fuel a (y :: b)
    | .gt => (none, some y) :: joinSides compare fuel (x :: a) b
    | .eq =>
      let isSame (l : JoinLine) : Bool := compare l.key x.key == .eq
      let xs := x :: a.takeWhile isSame
      let ys := y :: b.takeWhile isSame
      (xs.flatMap fun x => ys.map fun y => (some x, some y)) ++
        joinSides compare fuel (a.dropWhile isSame) (b.dropWhile isSame)

def join (s : State) (args : List Bytes) : State :=
  withFlags ("1= 2= a= e= i/ignore-case j= o= t= v= z/zero-terminated /check-order /nocheck-order " ++
    "/header") 1 s args fun o operands =>
    match operands with
    | [] => refuse s 1 "missing operand"
    | [a] => refuse s 1 ("missing operand after " ++ quote a)
    | a :: b :: _ =>
      match content s a with
      | (s, .error reason) => s.grumble 1 (plainly a reason)
      | (s, .ok t) =>
        match content s b with
        | (s, .error reason) => s.grumble 1 (plainly b reason)
        | (s, .ok u) =>
          let tab := (o.value? "t").bind List.head?
          let field (key : String) : Nat :=
            (((o.value? key).orElse fun _ => o.value? "j").map ofDigits).getD 1 - 1
          let read (k : Nat) (t : Bytes) : List JoinLine := (Bytes.lines t).map fun l =>
            let fs := fieldsBy tab (bare l)
            ⟨fs.getD k [], fs⟩
          let keys := (field "1", field "2")
          let left := read keys.1 t
          let right := read keys.2 u
          let fold (t : Bytes) : Bytes := if o.has "i" then t.map Char.toLower else t
          let compare (a b : Bytes) : Ordering := compareBytes (fold a) (fold b)
          let pairs := joinSides compare (left.length + right.length + 1) left right
          let empty := (o.value? "e").getD []
          let mark := tab.getD ' '
          let isAuto := o.value? "o" == some "auto".toList
          let specs := (o.values "o").flatMap fun v =>
            (Bytes.split ',' (v.map fun c => if c == ' ' then ',' else c)).filter (!·.isEmpty)
          let fill (t : Bytes) : Bytes := if t.isEmpty then empty else t
          let others (k : Nat) (l : JoinLine) : List Bytes :=
            (l.fields.zipIdx.filter fun (_, n) => n != k).map (·.1)
          let widest (k : Nat) (ls : List JoinLine) : Nat :=
            (ls.head?.map fun l => (others k l).length).getD 0
          let row (x y : Option JoinLine) : Bytes :=
            let key := ((x.orElse fun _ => y).map (·.key)).getD []
            let cell (spec : Bytes) : Bytes :=
              match spec with
              | ['0'] => fill key
              | c :: '.' :: n =>
                let side := if c == '1' then x else y
                fill ((side.bind fun l => l.fields[ofDigits n - 1]?).getD [])
              | _ => []
            let padded (k count : Nat) (l : Option JoinLine) : List Bytes :=
              (List.range count).map fun n => fill ((l.bind fun l => (others k l)[n]?).getD [])
            let cells := if isAuto then
                fill key :: padded keys.1 (widest keys.1 left) x ++
                  padded keys.2 (widest keys.2 right) y
              else if specs.isEmpty then
                fill key :: (x.elim [] (others keys.1)).map fill ++
                  (y.elim [] (others keys.2)).map fill
              else specs.map cell
            Text.join [mark] cells ++ ['\n']
          let alone (n : String) : Bool :=
            (o.values "a" ++ o.values "v").contains n.toList
          let shown (p : Option JoinLine × Option JoinLine) : Bytes :=
            match p with
            | (some x, some y) => if o.has "v" then [] else row (some x) (some y)
            | (some x, none) => if alone "1" then row (some x) none else []
            | (none, some y) => if alone "2" then row none (some y) else []
            | (none, none) => []
          let s := s.print (pairs.flatMap shown)
          let unpaired := pairs.any fun (x, y) => x.isNone || y.isNone
          let disordered? (ls : List JoinLine) : Option (Nat × Bytes) :=
            disorder? (fun a b => compare a b != .gt) 1 (ls.map (·.key))
          let complain (s : State) (p text : Bytes) (ls : List JoinLine) : State :=
            match (if unpaired && !o.has "nocheck-order" then disordered? ls else none) with
            | some (n, _) =>
              s.grumble 1 (String.ofList p ++ ":" ++ toString n ++ ": is not sorted: " ++
                String.ofList (bare ((Bytes.lines text).getD (n - 1) [])))
            | none => s
          let s := complain (complain s a t left) b u right
          if s.status == 0 then s else s.grumble 1 "input is not in sorted order"

/-! ## Words after others -/

/-- A word, how many words must come before it, and which come after it. -/
structure Node where
  word : Bytes
  before : Nat
  after : List Bytes

private def relate (nodes : List Node) (a b : Bytes) : List Node :=
  let add (ns : List Node) (w : Bytes) : List Node :=
    if ns.any (·.word == w) then ns else ns ++ [⟨w, 0, []⟩]
  let nodes := add (add nodes a) b
  if a == b then nodes
  else nodes.map fun n =>
    if n.word == a then { n with after := b :: n.after }
    else if n.word == b then { n with before := n.before + 1 }
    else n

private def relateAll : List Node → List Bytes → List Node
  | nodes, a :: b :: rest => relateAll (relate nodes a b) rest
  | nodes, _ => nodes

/-- Words in an order in which all come after those they must. -/
private def arrange : Nat → List Node → List Bytes → List Bytes → List Bytes × List Node
  | 0, nodes, _, done => (done.reverse, nodes)
  | _, nodes, [], done => (done.reverse, nodes)
  | fuel + 1, nodes, w :: queue, done =>
    let after := ((nodes.find? (·.word == w)).map (·.after)).getD []
    let (nodes, queue) := after.foldl (fun (nodes, queue) x =>
      let nodes := nodes.map fun (n : Node) =>
        if n.word == x then { n with before := n.before - 1 } else n
      let isFree := nodes.any fun n => n.word == x && n.before == 0
      (nodes, if isFree then queue ++ [x] else queue)) (nodes, queue)
    arrange fuel (nodes.filter (·.word != w)) queue (w :: done)

def tsort (s : State) (args : List Bytes) : State :=
  withFlags "" 1 s args fun _ operands =>
    match operands with
    | _ :: extra :: _ => refuse s 1 ("extra operand " ++ quote extra)
    | operands =>
      let p := operands.headD ['-']
      match content s p with
      | (s, .error reason) => s.grumble 1 (plainly p reason)
      | (s, .ok t) =>
        let words := (Bytes.split ' ' (t.map fun c => if isSpace c then ' ' else c)).filter
          (!·.isEmpty)
        if words.length % 2 == 1 then
          s.grumble 1 (quoteIfWild p ++ ": input contains an odd number of tokens")
        else
          let nodes := (relateAll [] words).mergeSort fun a b => notAfter a.word b.word
          let free := (nodes.filter (·.before == 0)).map (·.word)
          let (out, left) := arrange (nodes.length + 1) nodes free []
          let s := s.print (out.flatMap (· ++ ['\n']))
          if left.isEmpty then s
          else
            let s := s.grumble 1 (quoteIfWild p ++ ": input contains a loop:")
            let s := left.foldl (fun s n => s.grumble 1 (String.ofList n.word)) s
            s.print (left.flatMap fun n => n.word ++ ['\n'])

end Graft.Shell.Tool
