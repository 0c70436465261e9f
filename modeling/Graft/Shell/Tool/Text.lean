import Graft.Shell.Tool.Basic

/-!
# Programs for texts

Programs that print the whole of their input or a part of it: `cat`, `tac`, `rev`, `head`, `tail`,
`nl`, `fold`, `expand`, `unexpand`, `tee`, and `wc`, which counts.
-/
namespace Graft.Shell.Tool

/-! ## Whole texts -/

/-- What a character that does not print looks like. -/
def visible (c : Char) : Bytes :=
  let n := c.toNat
  let low (n : Nat) : Bytes :=
    if n < 32 then ['^', Char.ofNat (n + 64)]
    else if n == 127 then ['^', '?']
    else [Char.ofNat n]
  if n < 128 then low n else ['M', '-'] ++ low (n - 128)

/-- How `cat` shows its input. -/
structure Display where
  numbers : Bool
  filledOnly : Bool
  squeezed : Bool
  ends : Bool
  tabs : Bool
  marks : Bool

/-- The number of the last line, and how many line ends came last. -/
structure Display.State where
  line : Nat
  newlines : Nat

private def lineNumber (n : Nat) : Bytes := padLeft 6 (toString n).toList ++ ['\t']

/-- Shows a line. -/
def Display.show (d : Display) (st : Display.State) (l : Bytes) : Bytes × Display.State :=
  let isEmpty := l == ['\n']
  if isEmpty && d.squeezed && st.newlines ≥ 2 then ([], st)
  else
    let counts := st.newlines > 0 && d.numbers && !(isEmpty && d.filledOnly)
    let line := if counts then st.line + 1 else st.line
    let shown (c : Char) : Bytes :=
      if c == '\n' then (if d.ends then ['$', c] else [c])
      else if c == '\t' then (if d.tabs then ['^', 'I'] else [c])
      else if d.marks then visible c
      else [c]
    let text := if d.ends || d.tabs || d.marks then l.flatMap shown else l
    let newlines := if isEmpty then st.newlines + 1 else if l.getLast? == some '\n' then 1 else 0
    ((if counts then lineNumber line else []) ++ text, ⟨line, newlines⟩)

/-- The file that a descriptor writes to, and where it stands in it. -/
private def outputPlace? (s : State) : Option (Location × Nat) := do
  let (_, o) ← s.opened? 1
  match o.source with
  | .file l _ _ =>
      return (l, if o.append then ((State.bytesAt s.disk l).getD []).length else o.offset)
  | _ => none

/-- Whether what a path leads to is being written, behind where it is read. -/
def isOutput (s : State) (path : Bytes) : Bool :=
  match outputPlace? s with
  | none => false
  | some (l, place) =>
    if path == ['-'] then
      match s.opened? 0 with
      | some (_, ⟨.file m _ _, offset, _, _, _⟩) => l == m && offset < place
      | _ => false
    else
      match s.disk.reach s.here path.toText with
      | .ok m => l == m && 0 < place
      | .error _ => false

def cat (s : State) (args : List Bytes) : State :=
  withFlags ("A/show-all b/number-nonblank e E/show-ends n/number s/squeeze-blank t T/show-tabs u " ++
    "v/show-nonprinting") 1 s args fun o paths =>
    let all := o.has "A"
    let d : Display := ⟨o.has "n" || o.has "b", o.has "b", o.has "s", all || o.has "e" || o.has "E",
      all || o.has "t" || o.has "T", all || o.has "e" || o.has "t" || o.has "v"⟩
    let plain := !(d.numbers || d.squeezed || d.ends || d.tabs || d.marks)
    let one (s : State) (st : Display.State) (t : Bytes) : State × Display.State :=
      if plain then (s.print t, st)
      else
        let (shown, st) := (Bytes.lines t).foldl (fun (done, st) l =>
          let (b, st) := d.show st l
          (b :: done, st)) (([] : List Bytes), st)
        (s.print shown.reverse.flatten, st)
    let paths := if paths.isEmpty then [['-']] else paths
    let (s, _) := paths.foldl (fun (s, st) p =>
      if s.halt.isSome then (s, st)
      else if isOutput s p then
        (s.grumble 1 (quoteIfWild p ++ ": input file is output file"), st)
      else
        match content s p with
        | (s, .ok t) => one s st t
        | (s, .error reason) => (s.grumble 1 (plainly p reason), st))
      (s, (⟨0, 1⟩ : Display.State))
    if paths.contains ['-'] && (s.opened? 0).isNone then
      s.grumble 1 "closing standard input: Bad file descriptor"
    else s

/-- Parts of a text that end with a separator. -/
private def records (separator : Bytes) : Nat → Bytes → Bytes → List Bytes
  | 0, current, t => [current.reverse ++ t]
  | _, current, [] => if current.isEmpty then [] else [current.reverse]
  | fuel + 1, current, c :: r =>
    if separator.isPrefixOf (c :: r) && !separator.isEmpty then
      (current.reverse ++ separator) :: records separator fuel [] ((c :: r).drop separator.length)
    else records separator fuel (c :: current) r

def tac (s : State) (args : List Bytes) : State :=
  withFlags "b/before r/regex s/separator=" 1 s args fun o paths =>
    let complaint (p : Bytes) (reason : String) : String :=
      if reason == "Is a directory" then quoteIfWild p ++ ": read error: " ++ reason
      else "failed to open " ++ quote p ++ " for reading: " ++ reason
    forEachFile s paths 1 complaint fun s _ t =>
      let rs := match o.value? "s" with
        | some separator => records separator (t.length + 1) [] t
        | none => Bytes.lines t
      s.print rs.reverse.flatten

private def reverseLine (l : Bytes) : Bytes :=
  if l.getLast? == some '\n' then l.dropLast.reverse ++ ['\n'] else l.reverse

def rev (s : State) (args : List Bytes) : State :=
  withFlags "0/zero" 1 s args fun _ paths =>
    let complaint (p : Bytes) (reason : String) : String :=
      "cannot open " ++ String.ofList p ++ ": " ++ reason
    forEachFile s paths 1 complaint fun s _ t => s.print ((Bytes.lines t).map reverseLine).flatten

/-- Copies the input to the output and to files. -/
def tee (s : State) (args : List Bytes) : State :=
  withFlags "a/append i/ignore-interrupts p/output-error?" 1 s args fun o paths =>
    let (s, t) := s.takeAll 0
    let write (s : State) (p : Bytes) : State :=
      match device? p with
      | some .output => s.print t
      | some .errors => { s.write 2 t with lost := s.lost }
      | some _ => s
      | none =>
        match s.place p with
        | .ok l => s.store l (o.has "a") t
        | .error f => s.grumble 1 (plainly p f.reason)
    paths.foldl write (s.print t)

/-! ## Parts of texts -/

/-- How much of a text is meant: units from its one end, or all but those. -/
structure Amount where
  count : Nat
  reversed : Bool
  inBytes : Bool
  deriving DecidableEq, Repr

/-- The amount that a value means; `mark` reverses it. -/
private def amount? (mark : Char) (inBytes : Bool) (t : Bytes) : Option Amount :=
  let (reversed, t) := match t with
    | c :: r =>
      if c == mark then (true, r) else if c == '-' || c == '+' then (false, r) else (false, t)
    | [] => (false, t)
  (if t.head?.any Char.isDigit then sized? t else none).map (⟨·, reversed, inBytes⟩)

/-- An argument that is only a number means lines. -/
private def modern (args : List Bytes) : List Bytes :=
  match args with
  | ('-' :: c :: r) :: rest =>
    if c.isDigit then
      let ds := (c :: r).takeWhile Char.isDigit
      let letters := (c :: r).drop ds.length
      if letters.all fun x => x == 'c' || x == 'l' || x == 'q' || x == 'v' then
        let flag : Char := if letters.contains 'c' then 'c' else 'n'
        let others := letters.filter fun x => x == 'q' || x == 'v'
        ('-' :: flag :: ds) :: (if others.isEmpty then rest else ('-' :: others) :: rest)
      else args
    else args
  | _ => args

private def partFlags : String :=
  "c=/bytes n=/lines q/quiet/silent v/verbose z/zero-terminated"

/-- Goes on with the amount that options ask for. -/
private def withAmount (mark : Char) (s : State) (o : Options) (run : Amount → State) : State :=
  let bad (what : String) (v : Bytes) : State :=
    s.grumble 1 ("invalid number of " ++ what ++ ": " ++ quote v)
  match o.last? ["c", "n"] with
  | some "c" =>
    let v := (o.value? "c").getD []
    (amount? mark true (v.dropWhile isSpace)).elim (bad "bytes" v) run
  | some _ =>
    let v := (o.value? "n").getD []
    (amount? mark false (v.dropWhile isSpace)).elim (bad "lines" v) run
  | none => run ⟨10, false, false⟩

/-- A title before each of several files. -/
private def titled (o : Options) (paths : List Bytes) (first : Bool) (p : Bytes) : Bytes :=
  let shows := !o.has "q" && (o.has "v" || paths.length > 1)
  let name := if p == ['-'] then "standard input".toList else p
  if shows then (if first then [] else ['\n']) ++ "==> ".toList ++ name ++ " <==\n".toList else []

private def partComplaint (p : Bytes) (reason : String) : String :=
  if reason == "Is a directory" then "error reading " ++ quote p ++ ": " ++ reason
  else "cannot open " ++ quote p ++ " for reading: " ++ reason

/-- Prints a part of each file under its title. The input may be read only in part. -/
private def partsOf (s : State) (o : Options) (paths : List Bytes)
    (input : State → Except String State) (f : Bytes → Bytes) : State :=
  let paths := if paths.isEmpty then [['-']] else paths
  (paths.foldl (fun (s, first) p =>
    if s.halt.isSome then (s, first)
    else
      let title := titled o paths first p
      if p == ['-'] then
        match input (s.print title) with
        | .ok s => (s, false)
        | .error reason => ((s.grumble 1 (partComplaint "standard input".toList reason)), first)
      else
        match content s p with
        | (s, .ok t) => (s.print (title ++ f t), false)
        | (s, .error reason) =>
          let opened := reason == "Is a directory"
          ((if opened then s.print title else s).grumble 1 (partComplaint p reason), first &&
            !opened))
    (s, true)).1

/-- How much of a text its first lines take, if it has so many. -/
private def firstLines (terminator : Char) : Nat → Nat → Bytes → Option Nat
  | 0, size, _ => some size
  | _ + 1, _, [] => none
  | n + 1, size, c :: r =>
    if c == terminator then firstLines terminator n (size + 1) r
    else firstLines terminator (n + 1) (size + 1) r

/-- What a program takes at once. -/
def blockSize : Nat := 8192

private def linesBy (terminator : Char) (t : Bytes) : List Bytes :=
  if terminator == '\n' then Bytes.lines t
  else
    let parts := (Bytes.split terminator t).map (· ++ [terminator])
    match parts.getLast? with
    | some last => parts.dropLast ++ (if last.length ≤ 1 then [] else [last.dropLast])
    | none => []

def head (s : State) (args : List Bytes) : State :=
  withFlags partFlags 1 s (modern args) fun o paths =>
    withAmount '-' s o fun a =>
      let terminator : Char := if o.has "z" then Char.ofNat 0 else '\n'
      let part (t : Bytes) : Bytes :=
        match a.inBytes, a.reversed with
        | true, false => t.take a.count
        | true, true => t.take (t.length - a.count)
        | false, false => t.take ((firstLines terminator a.count 0 t).getD t.length)
        | false, true =>
          let ls := linesBy terminator t
          (ls.take (ls.length - a.count)).flatten
      let input (s : State) : Except String State := do
        let (t, cut) ← s.readable 0
        let shown := part t
        let taken := if a.reversed then t.length
          else if a.inBytes || s.isSeekable 0 then shown.length
          else min t.length ((shown.length + blockSize - 1) / blockSize * blockSize)
        let isShort := if a.inBytes then t.length < a.count
          else (firstLines terminator a.count 0 t).isNone
        return { (s.advance 0 taken).print shown with
          starved := s.starved || (cut && (a.reversed || isShort)) }
      partsOf s o paths input part

def tail (s : State) (args : List Bytes) : State :=
  withFlags (partFlags ++ " f/follow? F s= /pid= /retry") 1 s (modern args) fun o paths =>
    withAmount '+' s o fun a =>
      let terminator : Char := if o.has "z" then Char.ofNat 0 else '\n'
      let part (t : Bytes) : Bytes :=
        match a.inBytes, a.reversed with
        | true, false => t.drop (t.length - a.count)
        | true, true => t.drop (a.count - 1)
        | false, false =>
          let ls := linesBy terminator t
          (ls.drop (ls.length - a.count)).flatten
        | false, true => t.drop ((firstLines terminator (a.count - 1) 0 t).getD t.length)
      let input (s : State) : Except String State := do
        let (t, cut) ← s.readable 0
        return { (s.advance 0 t.length).print (part t) with starved := s.starved || cut }
      partsOf s o paths input part

/-! ## Counting -/

/-- The number of words, given whether one has begun. -/
def countWords (t : Bytes) : Nat :=
  (t.foldl (fun (n, inWord) c =>
    if isSpace c then (n, false) else (if inWord then n else n + 1, true)) (0, false)).1

/-- How wide the widest line is. -/
def widestLine (t : Bytes) : Nat :=
  let (widest, current) := t.foldl (fun (widest, current) c =>
    if c == '\n' || c == '\r' || c.toNat == 12 then (max widest current, 0)
    else if c == '\t' then (widest, current + 8 - current % 8)
    else if ' ' ≤ c && c ≤ '~' then (widest, current + 1)
    else (widest, current)) (0, 0)
  max widest current

private def countKeys : List String := ["l", "w", "m", "c", "L"]

private def countOf (t : Bytes) (key : String) : Nat :=
  match key with
  | "l" => t.count '\n'
  | "w" => countWords t
  | "L" => widestLine t
  | _ => t.length

/-- The width of the counts: that of the size of all files, or more if one is no file. -/
private def countWidth (s : State) (single : Bool) (paths : List Bytes) : Nat :=
  let size? (p : Bytes) : Option (Option Nat) :=
    if p == ['-'] then
      match s.opened? 0 with
      | some (_, ⟨.file l _ _, _, _, _, _⟩) => some ((State.bytesAt s.disk l).map List.length)
      | _ => some none
    else
      match s.disk.reach s.here p.toText with
      | .error _ => if (device? p).isSome then some none else none
      | .ok l => some ((State.bytesAt s.disk l).map List.length)
  let sizes := paths.map size?
  if single && paths.length ≤ 1 then 1
  else
    let total := (sizes.map fun n => (n.getD none).getD 0).foldl (· + ·) 0
    let width := (toString total).length
    if sizes.contains (some none) then max width 7 else width

/-- Counts lines, words, characters and bytes, as far as they are asked for. -/
def wc (s : State) (args : List Bytes) : State :=
  withFlags "c/bytes l/lines L/max-line-length m/chars w/words /files0-from= /total=" 1 s args
    fun o operands =>
    let asked := countKeys.filter o.has
    let keys := if asked.isEmpty then ["l", "w", "c"] else asked
    let paths := if operands.isEmpty then [['-']] else operands
    let width := countWidth s (keys.length == 1) paths
    let row (counts : List Nat) (name : Bytes) : Bytes :=
      let cells := counts.map fun n => padLeft width (toString n).toList
      Text.join [' '] cells ++ name ++ ['\n']
    let add (totals counts : List Nat) : List Nat :=
      (keys.zip (totals.zip counts)).map fun (k, a, b) => if k == "L" then max a b else a + b
    let (s, totals) := paths.foldl (fun (s, totals) p =>
      let name := if operands.isEmpty then [] else ' ' :: p
      match content s p with
      | (s, .ok t) =>
        let counts := keys.map (countOf t)
        (s.print (row counts name), add totals counts)
      | (s, .error reason) =>
        let s := s.grumble 1 (plainly p reason)
        (if reason == "Is a directory" then s.print (row (keys.map fun _ => 0) name) else s,
          totals))
      (s, keys.map fun _ => 0)
    if paths.length > 1 then s.print (row totals " total".toList) else s

/-! ## Numbers, widths and tabs -/

/-- Which lines `nl` numbers. -/
private def nlCounts (style : Bytes) (l : Bytes) : Bool :=
  match style with
  | ['a'] => true
  | ['n'] => false
  | _ => !(bare l).isEmpty

private def nlNumber (format : Bytes) (width : Nat) (n : Int) : Bytes :=
  let ds := (toString n.natAbs).toList
  let sign := if n < 0 then ['-'] else []
  match String.ofList format with
  | "ln" => padRight width (sign ++ ds)
  | "rz" => sign ++ List.replicate (width - sign.length - ds.length) '0' ++ ds
  | _ => padLeft width (sign ++ ds)

/-- Numbers lines. The lines of a header, a body and a footer begin behind marks of their own. -/
def nl (s : State) (args : List Bytes) : State :=
  withFlags ("b=/body-numbering d=/section-delimiter f=/footer-numbering h=/header-numbering " ++
    "i=/line-increment l=/join-blank-lines n=/number-format p/no-renumber s=/number-separator " ++
    "v=/starting-line-number w=/number-width") 1 s args fun o paths =>
    let integer (key : String) (otherwise : Int) : Int :=
      ((o.value? key).bind Arithmetic.integer?).getD otherwise
    let first := integer "v" 1
    let step := integer "i" 1
    let width := (integer "w" 6).toNat
    let joins := (integer "l" 1).toNat
    let format := (o.value? "n").getD ['r', 'n']
    let separator := (o.value? "s").getD ['\t']
    let styleOf (section' : Nat) : Bytes := match section' with
      | 3 => (o.value? "h").getD ['n']
      | 1 => (o.value? "f").getD ['n']
      | _ => (o.value? "b").getD ['t']
    let empty := List.replicate (width + separator.length) ' '
    let marks := match (o.value? "d").getD ['\\', ':'] with
      | [c] => [c, ':']
      | m => m
    let sectionOf (l : Bytes) : Option Nat :=
      [3, 2, 1].find? fun n => bare l == (List.replicate n marks).flatten
    let number (n : Int) (l : Bytes) : Bytes := nlNumber format width n ++ separator ++ ended l
    let (s, t) := gather s paths 1 plainly
    let (out, _) := (Bytes.lines t).foldl (fun (out, n, part, blanks) l =>
      match sectionOf l with
      | some part => (['\n'] :: out, if o.has "p" then n else first, part, 0)
      | none =>
        let isBlank := (bare l).isEmpty
        let style := styleOf part
        if style == ['a'] && isBlank && joins > 1 then
          if blanks + 1 == joins then (number n l :: out, n + step, part, 0)
          else ((empty ++ ended l) :: out, n, part, blanks + 1)
        else if nlCounts style l then (number n l :: out, n + step, part, 0)
        else ((empty ++ ended l) :: out, n, part, blanks))
      (([] : List Bytes), first, 2, 0)
    s.print out.reverse.flatten

/-- The column behind a character. -/
private def columnAfter (column : Nat) (c : Char) : Nat :=
  if c == '\t' then column + 8 - column % 8
  else if c.toNat == 8 then column - 1
  else if c == '\r' then 0
  else column + 1

private def widthOf (inBytes : Bool) (t : Bytes) : Nat :=
  if inBytes then t.length else t.foldl columnAfter 0

/-- Breaks lines that are too wide. `row` is the current row backwards. -/
private def foldText (inBytes atBlanks : Bool) (width : Nat) :
    Nat → List Bytes → Bytes → Nat → Bytes → Bytes
  | 0, done, row, _, t => (t.reverse ++ row) |>.reverse |> fun last =>
      (last :: done).reverse.flatten
  | _, done, row, _, [] => (row.reverse :: done).reverse.flatten
  | fuel + 1, done, row, column, c :: r =>
    if c == '\n' then foldText inBytes atBlanks width fuel ((c :: row).reverse :: done) [] 0 r
    else
      let next := if inBytes then column + 1 else columnAfter column c
      if next ≤ width || row.isEmpty then
        foldText inBytes atBlanks width fuel done (c :: row) next r
      else
        let isBlank (x : Char) : Bool := x == ' ' || x == '\t'
        let behind := row.takeWhile (!isBlank ·)
        if atBlanks && behind.length < row.length then
          let before := row.drop behind.length
          foldText inBytes atBlanks width fuel (('\n' :: before).reverse :: done) behind
            (widthOf inBytes behind.reverse) (c :: r)
        else foldText inBytes atBlanks width fuel (('\n' :: row).reverse :: done) [] 0 (c :: r)

/-- An option that is only a number means a width. -/
private def widthArgs (args : List Bytes) : List Bytes :=
  args.map fun a => match a with
    | '-' :: c :: r => if (c :: r).all Char.isDigit then '-' :: 'w' :: c :: r else a
    | a => a

def fold (s : State) (args : List Bytes) : State :=
  withFlags "b/bytes s/spaces w=/width c/characters" 1 s (widthArgs args) fun o paths =>
    let v := (o.value? "w").getD ['8', '0']
    if !isDigits v || ofDigits v == 0 then s.grumble 1 ("invalid number of columns: " ++ quote v)
    else
      forEachFile s paths 1 plainly fun s _ t =>
        s.print (foldText (o.has "b") (o.has "s") (ofDigits v) (3 * t.length + 1) [] [] 0 t)

/-- The places of tabs: one distance, or a list of columns. -/
private def tabPlaces (o : Options) : List Nat :=
  (o.values "t").flatMap fun v =>
    ((Bytes.split ',' (v.map fun c => if c == ' ' then ',' else c)).filter isDigits).map ofDigits

/-- The next place of a tab behind a column, if there is one. -/
private def nextTab (places : List Nat) (column : Nat) : Option Nat :=
  match places with
  | [] => some (column + 8 - column % 8)
  | [n] => some (if n == 0 then column + 1 else column + n - column % n)
  | ns => ns.find? (column < ·)

private def expandLine (places : List Nat) (initial : Bool) (l : Bytes) : Bytes :=
  (l.foldl (fun (done, column, leading) c =>
    if c == '\t' && (leading || !initial) then
      let next := (nextTab places column).getD (column + 1)
      (List.replicate (next - column) ' ' ++ done, next, leading)
    else if c.toNat == 8 then (c :: done, column - 1, leading)
    else (c :: done, column + 1, leading && (c == ' ' || c == '\t')))
    (([] : Bytes), 0, true)).1.reverse

private def tabArgs (args : List Bytes) : List Bytes :=
  args.map fun a => match a with
    | '-' :: c :: r =>
        if (c :: r).all (fun x => x.isDigit || x == ',') then '-' :: 't' :: c :: r else a
    | a => a

/-- Replaces tabs by blanks. -/
def expand (s : State) (args : List Bytes) : State :=
  withFlags "i/initial t=/tabs" 1 s (tabArgs args) fun o paths =>
    forEachFile s paths 1 plainly fun s _ t =>
      s.print ((Bytes.lines t).map (expandLine (tabPlaces o) (o.has "i"))).flatten

/-- Blanks are kept back until it is known whether a tab replaces them. `isLone` says that the first
of them was a single blank right before a tab stop. All texts are kept backwards. -/
private structure Blanks where
  done : Bytes
  column : Nat
  kept : Bytes
  isLone : Bool
  wasBlank : Bool
  converts : Bool

namespace Blanks

private def flush (b : Blanks) (c : Char) : Blanks :=
  let kept := if b.kept.length > 1 && b.isLone then b.kept.dropLast ++ ['\t'] else b.kept
  { b with done := c :: kept ++ b.done, kept := [], isLone := false }

private def tab (b : Blanks) (column : Nat) : Blanks :=
  flush { b with column, kept := if b.isLone && !b.kept.isEmpty then ['\t'] else [] } '\t'

private def add (places : List Nat) (everywhere : Bool) (b : Blanks) (c : Char) : Blanks :=
  if !b.converts then { b with done := c :: b.done }
  else
    let isBlank := c == ' ' || c == '\t'
    let after (b : Blanks) : Blanks :=
      { b with wasBlank := isBlank, converts := b.converts && (everywhere || isBlank) }
    match isBlank, nextTab places b.column with
    | true, some next =>
      if c == '\t' then after (b.tab next)
      else if b.wasBlank && b.column + 1 == next then after (b.tab next)
      else
        { b with
          column := b.column + 1
          kept := c :: b.kept
          isLone := b.isLone || b.column + 1 == next
          wasBlank := true }
    | true, none => after { b.flush c with converts := false }
    | false, _ => after { b.flush c with column := b.column + 1 }

end Blanks

private def unexpandLine (places : List Nat) (everywhere : Bool) (l : Bytes) : Bytes :=
  let b := l.foldl (Blanks.add places everywhere) ⟨[], 0, [], false, true, true⟩
  (b.kept ++ b.done).reverse

/-- Replaces blanks by tabs. -/
def unexpand (s : State) (args : List Bytes) : State :=
  withFlags "a/all /first-only t=/tabs" 1 s (tabArgs args) fun o paths =>
    let everywhere := (o.has "a" || o.has "t") && !o.has "first-only"
    forEachFile s paths 1 plainly fun s _ t =>
      s.print ((Bytes.lines t).map (unexpandLine (tabPlaces o) everywhere)).flatten

end Graft.Shell.Tool
