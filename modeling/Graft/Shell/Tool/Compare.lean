import Graft.Diff.Changed
import Graft.Shell.Tool.File

/-!
# Programs that compare files

`cmp` finds the first byte in which two files differ, `diff` shows which lines differ.
-/
namespace Graft.Shell.Tool

/-- Fails as the programs here do: their second line begins with their name, too. -/
private def refuseTwice (s : State) (message : String) : State :=
  let name := String.ofList s.called
  s.grumble 2 (message ++ "\n" ++ name ++ ": Try '" ++ name ++ " --help' for more information.")

/-- Goes on with options and operands, or fails. -/
private def withFlagsTwice (flags : String) (s : State) (args : List Bytes)
    (run : Options → List Bytes → State) : State :=
  match parse (Flag.all flags) false (Bytes.room args) args with
  | .ok (o, operands) => run o operands
  | .error message => refuseTwice s message

/-! ## Bytes -/

/-- The first difference of two texts: how many bytes and how many lines come before it, and the
bytes, as far as there are any. -/
private def firstDifference : Nat → Nat → Bytes → Bytes → Nat × Nat × Option Char × Option Char
  | n, l, a :: as, b :: bs =>
    if a == b then firstDifference (n + 1) (if a == '\n' then l + 1 else l) as bs
    else (n, l, some a, some b)
  | n, l, as, bs => (n, l, as.head?, bs.head?)

private def octalByte (c : Char) : Bytes := padLeft 3 (Nat.toDigits 8 c.toNat)

private def shownByte (c : Char) : Bytes :=
  let n := c.toNat
  let high := if n ≥ 128 then ['M', '-'] else []
  let n := n % 128
  high ++ (if n < 32 then ['^', Char.ofNat (n + 64)] else if n == 127 then ['^', '?']
    else [Char.ofNat n])

def cmp (s : State) (args : List Bytes) : State :=
  withFlagsTwice "b/print-bytes i=/ignore-initial l/verbose n=/bytes s/quiet/silent" s args
    fun o ps =>
    match ps with
    | [] => refuseTwice s ("missing operand after " ++ quote s.called)
    | _ :: _ :: _ :: _ :: extra :: _ => refuseTwice s ("extra operand " ++ quote extra)
    | p :: more =>
      let q := more.headD ['-']
      let skipOf (k : Nat) : Nat :=
        let given := (o.value? "i").map fun v => (Bytes.split ':' v).filterMap sized?
        let operand := (more[k + 1]?).bind sized?
        (operand <|> given.bind (fun ns => ns[k]? <|> ns[0]?)).getD 0
      let limit := (o.value? "n").bind sized?
      let part (k : Nat) (t : Bytes) : Bytes :=
        let t := t.drop (skipOf k)
        match limit with
        | some n => t.take n
        | none => t
      let unread (s : State) (p : Bytes) (reason : String) : State :=
        if o.has "s" then s.finish 2 else s.grumble 2 (plainly p reason)
      match content s p with
      | (s, .error reason) => unread s p reason
      | (s, .ok a) =>
        match (if q == p then (s, .ok a) else content s q) with
        | (s, .error reason) => unread s q reason
        | (s, .ok b) =>
          let a := part 0 a
          let b := part 1 b
          if a == b then s
          else if o.has "s" then s.finish 1
          else
            let (n, l, x, y) := firstDifference 0 1 a b
            let eof (s : State) (name : Bytes) (size : Nat) (shorter : Bytes) : State :=
              if size == 0 then s.grumble 1 ("EOF on " ++ String.ofList name ++ " which is empty")
              else
                let lines := (shorter.filter (· == '\n')).length
                let isWhole := shorter.getLast? == some '\n'
                let place := if o.has "l" then ""
                  else if isWhole then ", line " ++ toString lines
                  else ", in line " ++ toString (lines + 1)
                s.grumble 1 ("EOF on " ++ String.ofList name ++ " after byte " ++ toString size ++
                  place)
            let short : State → State := fun s =>
              if a.length < b.length then eof s p a.length a
              else if b.length < a.length then eof s q b.length b else s
            if o.has "l" then
              let pairs := (a.zip b).zipIdx.filter fun ((x, y), _) => x != y
              let width := (toString (min a.length b.length)).length
              let line (e : (Char × Char) × Nat) : Bytes :=
                let number := padLeft width (toString (e.2 + 1)).toList
                if o.has "b" then
                  number ++ ' ' :: octalByte e.1.1 ++ ' ' :: padRight 4 (shownByte e.1.1) ++ ' ' ::
                    octalByte e.1.2 ++ ' ' :: shownByte e.1.2 ++ ['\n']
                else number ++ ' ' :: octalByte e.1.1 ++ ' ' :: octalByte e.1.2 ++ ['\n']
              ((short s).print (pairs.flatMap line)).finish 1
            else
              match x, y with
              | some x, some y =>
                let place := toString (n + 1) ++ ", line " ++ toString l
                let names := String.ofList p ++ " " ++ String.ofList q ++ " differ: "
                if o.has "b" then
                  (s.print ((names ++ "byte " ++ place ++ " is ").toList ++ octalByte x ++ ' ' ::
                    shownByte x ++ ' ' :: octalByte y ++ ' ' :: shownByte y ++ ['\n'])).finish 1
                else (s.print (names ++ "char " ++ place ++ "\n").toList).finish 1
              | _, _ => short s

/-! ## Lines -/

/-- What is compared of a line. -/
private def lineKey (o : Options) (l : Bytes) : Bytes :=
  let l := if o.has "strip-trailing-cr" then
      (if (bare l).getLast? == some '\r' then (bare l).dropLast ++ l.drop (bare l).length else l)
    else l
  let l := if o.has "i" then l.map Char.toLower else l
  let trim (l : Bytes) : Bytes := (l.reverse.dropWhile isSpace).reverse
  if o.has "w" then l.filter (!isSpace ·)
  else if o.has "b" then squeezed (trim l)
  else if o.has "Z" then trim l
  else l
where
  squeezed (l : Bytes) : Bytes :=
    (l.foldl (fun (done : Bytes) c =>
      if isSpace c then (if done.head? == some ' ' then done else ' ' :: done) else c :: done)
      []).reverse

/-- The lines of two texts as numbers, so that equal lines have equal numbers. -/
private def numbered (o : Options) (xs ys : List Bytes) : Array Nat × Array Nat :=
  let keys := ((xs ++ ys).map (lineKey o)).eraseDups
  let number (l : Bytes) : Nat := keys.idxOf (lineKey o l)
  ((xs.map number).toArray, (ys.map number).toArray)

private def withMark (mark : String) (l : Bytes) : Bytes :=
  mark.toList ++ l ++
    (if l.getLast? == some '\n' then [] else "\n\\ No newline at end of file\n".toList)

/-- Lines from one up to another, the first of which is counted as 1. -/
private def span (first last : Nat) : String :=
  if last ≤ first then toString first
  else if last == first + 1 then toString (first + 1)
  else toString (first + 1) ++ "," ++ toString last

private def slice (ls : List Bytes) (first last : Nat) : List Bytes :=
  (ls.drop first).take (last - first)

private def normalHunk (xs ys : List Bytes) (h : Diff.Changed.Hunk) : Bytes :=
  let old := slice xs h.first h.last
  let new := slice ys h.otherFirst h.otherLast
  let letter := if new.isEmpty then "d" else if old.isEmpty then "a" else "c"
  (span h.first h.last ++ letter ++ span h.otherFirst h.otherLast ++ "\n").toList ++
    old.flatMap (withMark "< ") ++
    (if old.isEmpty || new.isEmpty then [] else "---\n".toList) ++ new.flatMap (withMark "> ")

/-- Groups of hunks that are shown together because the lines around them meet. -/
private def grouped (context : Nat) : List Diff.Changed.Hunk → List (List Diff.Changed.Hunk)
  | [] => []
  | h :: rest =>
    match grouped context rest with
    | (g :: gs) :: more =>
      if g.first ≤ h.last + 2 * context then (h :: g :: gs) :: more else [h] :: (g :: gs) :: more
    | more => [h] :: more

/-- Where a range of lines begins and how many there are. -/
private def unifiedRange (first last : Nat) : String :=
  let count := last - first
  if count == 1 then toString (first + 1)
  else if count == 0 then toString first ++ ",0" else toString (first + 1) ++ "," ++ toString count

private def unifiedGroup (context : Nat) (xs ys : List Bytes) (g : List Diff.Changed.Hunk) : Bytes :=
  match g.head?, g.getLast? with
  | some first, some last =>
    let start := first.first - context
    let otherStart := first.otherFirst - min context first.first
    let stop := min xs.length (last.last + context)
    let otherStop := min ys.length (last.otherLast + context)
    let heading := "@@ -" ++ unifiedRange start stop ++ " +" ++ unifiedRange otherStart otherStop ++
      " @@\n"
    let (text, shown) := g.foldl (fun ((text, i) : List Bytes × Nat) h =>
      let same := (slice xs i h.first).map (withMark " ")
      let old := (slice xs h.first h.last).map (withMark "-")
      let new := (slice ys h.otherFirst h.otherLast).map (withMark "+")
      (text ++ same ++ old ++ new, h.last)) ([], start)
    heading.toList ++ (text ++ (slice xs shown stop).map (withMark " ")).flatten
  | _, _ => []

private def contextRange (first last : Nat) : String :=
  if last ≤ first then toString first
  else if last == first + 1 then toString last else toString (first + 1) ++ "," ++ toString last

private def contextGroup (context : Nat) (xs ys : List Bytes) (g : List Diff.Changed.Hunk) : Bytes :=
  match g.head?, g.getLast? with
  | some first, some last =>
    let start := first.first - context
    let otherStart := first.otherFirst - min context first.first
    let stop := min xs.length (last.last + context)
    let otherStop := min ys.length (last.otherLast + context)
    let side (ls : List Bytes) (first last : Nat) (ranges : List (Nat × Nat × String)) : Bytes :=
      let (text, i) := ranges.foldl (fun ((text, i) : List Bytes × Nat) (a, b, mark) =>
        (text ++ (slice ls i a).map (withMark "  ") ++ (slice ls a b).map (withMark mark), b))
        ([], first)
      (text ++ (slice ls i last).map (withMark "  ")).flatten
    let hasOld := g.any fun h => h.first < h.last
    let hasNew := g.any fun h => h.otherFirst < h.otherLast
    let mark (h : Diff.Changed.Hunk) (alone : String) : String :=
      if h.first < h.last && h.otherFirst < h.otherLast then "! " else alone
    let old := if hasOld then
        side xs start stop (g.map fun h => (h.first, h.last, mark h "- "))
      else []
    let new := if hasNew then
        side ys otherStart otherStop (g.map fun h => (h.otherFirst, h.otherLast, mark h "+ "))
      else []
    ("***************\n*** " ++ contextRange start stop ++ " ****\n").toList ++ old ++
      ("--- " ++ contextRange otherStart otherStop ++ " ----\n").toList ++ new
  | _, _ => []

private def editHunk (xs ys : List Bytes) (h : Diff.Changed.Hunk) : Bytes :=
  let old := slice xs h.first h.last
  let new := slice ys h.otherFirst h.otherLast
  let letter := if new.isEmpty then "d" else if old.isEmpty then "a" else "c"
  (span h.first h.last ++ letter ++ "\n").toList ++
    (if new.isEmpty then [] else (new.map ended).flatten ++ ".\n".toList)

/-! ### Side by side -/

/-- How lines stand side by side: the width of a half, where the second begins, and whether tabs
become blanks. -/
structure Halves where
  width : Nat
  second : Nat
  expands : Bool

/-- Halves that are as wide as a line allows, with a gap of at least three characters. Where tabs
are kept, the second begins at a tab stop. -/
def Halves.ofWidth (expands : Bool) (width : Nat) : Halves :=
  let tab := if expands then 1 else 8
  let gap := tab + 3
  let middle := width / 2 + gap / 2 + (if width % 2 == 1 && gap % 2 == 1 then 1 else 0)
  let second := middle - middle % tab
  let half := min (second - 3) (width - second)
  ⟨half, if half == 0 then width else second, expands⟩

/-- Tabs and blanks up to a column. -/
private def tabs (expands : Bool) (goal : Nat) : Nat → Nat → Bytes
  | 0, _ => []
  | fuel + 1, column =>
    let next := column / 8 * 8 + 8
    if goal ≤ column then []
    else if next ≤ goal && !expands then '\t' :: tabs expands goal fuel next
    else List.replicate (goal - column) ' '

/-- As much of a line as a half holds, and how wide that is. The columns in the line and in the half
differ once something did not fit. -/
private def halfLine (h : Halves) : Nat → Nat → Bytes → Bytes → Bytes × Nat
  | _, shown, done, [] | _, shown, done, '\n' :: _ => (done.reverse, shown)
  | column, shown, done, '\t' :: r =>
    let spaces := 8 - column % 8
    let stop := shown + spaces
    if column != shown then halfLine h (column + spaces) shown done r
    else if h.expands then
      let stop := min stop h.width
      halfLine h (column + spaces) (max shown stop) (List.replicate (stop - shown) ' ' ++ done) r
    else if stop < h.width then halfLine h (column + spaces) stop ('\t' :: done) r
    else halfLine h (column + spaces) shown done r
  | column, shown, done, c :: r =>
    if column + 1 ≤ h.width then halfLine h (column + 1) (column + 1) (c :: done) r
    else halfLine h (column + 1) shown done r

/-- A line of each text with a mark between them. -/
private def sideBySide (h : Halves) (x : Option Bytes) (mark : Char) (y : Option Bytes) : Bytes :=
  let endsOf (l : Option Bytes) : Bool := l.any (·.getLast? == some '\n')
  let (left, column) := halfLine h 0 0 [] (x.getD [])
  let mark := if mark == '|' && endsOf x != endsOf y then (if endsOf x then '/' else '\\')
    else mark
  let middle := (h.width + h.second - 1) / 2
  let (gap, column) : Bytes × Nat := if mark == ' ' then ([], column)
    else (tabs h.expands middle (middle + 1) column ++ [mark], max column middle + 1)
  let right := match y with
    | some y =>
      if y.head? == some '\n' then []
      else tabs h.expands h.second (h.second + 1) column ++ (halfLine h 0 0 [] y).1
    | none => []
  left ++ gap ++ right ++ (if endsOf x || endsOf y then ['\n'] else [])

/-- Two columns of lines with a mark between them. -/
private def columns (o : Options) (xs ys : List Bytes) (m : Diff.Changed.Marks) : Bytes :=
  let h := Halves.ofWidth (o.has "t") (((o.value? "W").map ofDigits).getD 130)
  let line := sideBySide h
  let rec go : Nat → Nat → Nat → List Bytes → List Bytes
    | 0, _, _, done => done
    | fuel + 1, i, j, done =>
      let dx := i < xs.length && m.left.getD i false
      let dy := j < ys.length && m.right.getD j false
      let x := xs[i]?
      let y := ys[j]?
      if dx && dy then go fuel (i + 1) (j + 1) (line x '|' y :: done)
      else if dx then go fuel (i + 1) j (line x '<' none :: done)
      else if dy then go fuel i (j + 1) (line none '>' y :: done)
      else if x.isSome then
        let common := if o.has "suppress-common-lines" then []
          else if o.has "left-column" then line x '(' none else line x ' ' y
        go fuel (i + 1) (j + 1) (common :: done)
      else done
  (go (xs.length + ys.length + 1) 0 0 []).reverse.flatten

/-- The options as they are repeated before the differences of files in directories. -/
private def repeated (args : List Bytes) : Bytes :=
  (args.filter fun a => a.length > 1 && a.head? == some '-').flatMap fun a => ' ' :: a

/-- Shows how two texts differ. -/
private def compareTexts (o : Options) (heading : Bytes) (s : State) (p q a b : Bytes) : State :=
  if a == b then
    if o.has "s" then
      s.print ("Files " ++ String.ofList p ++ " and " ++ String.ofList q ++
        " are identical\n").toList
    else s
  else
    let isBinary (t : Bytes) : Bool := t.any (·.toNat == 0)
    if (isBinary a || isBinary b) && !o.has "a" then
      let kind := if o.has "q" then "Files " else "Binary files "
      (s.print (kind ++ String.ofList p ++ " and " ++ String.ofList q ++
        " differ\n").toList).finish 1
    else
      let xs := Bytes.lines a
      let ys := Bytes.lines b
      let (nx, ny) := numbered o xs ys
      let marks := Diff.Changed.ofArrays nx ny
      let all := Diff.Changed.hunks marks
      let isBlank (l : Bytes) : Bool := (bare l).isEmpty
      let hunks := if o.has "B" then
          all.filter fun h => !((slice xs h.first h.last).all isBlank &&
            (slice ys h.otherFirst h.otherLast).all isBlank)
        else all
      if hunks.isEmpty then
        if o.has "y" then s.print (columns o xs ys marks)
        else if o.has "s" then
          s.print ("Files " ++ String.ofList p ++ " and " ++ String.ofList q ++
            " are identical\n").toList
        else s
      else if o.has "q" then
        (s.print ("Files " ++ String.ofList p ++ " and " ++ String.ofList q ++
          " differ\n").toList).finish
          1
      else
        let labels := o.values "L"
        let stamp (name : Bytes) : Bytes :=
          name ++
            '\t' :: Calendar.format (firstMoment + s.clock / 1000) "%F %T.000000000 +0000".toList
        let left := labels.getD 0 (stamp p)
        let right := labels.getD 1 (stamp q)
        let number (k : String) : Nat := ((o.value? k).map ofDigits).getD 3
        let text := match o.last? ["u", "U", "c", "C", "e", "y", "normal"] with
          | some "u" | some "U" =>
            let context := if o.has "U" then number "U" else 3
            "--- ".toList ++ left ++ "\n+++ ".toList ++ right ++ ['\n'] ++
              (grouped context hunks).flatMap (unifiedGroup context xs ys)
          | some "c" | some "C" =>
            let context := if o.has "C" then number "C" else 3
            "*** ".toList ++ left ++ "\n--- ".toList ++ right ++ ['\n'] ++
              (grouped context hunks).flatMap (contextGroup context xs ys)
          | some "e" => hunks.reverse.flatMap (editHunk xs ys)
          | some "y" => columns o xs ys marks
          | _ => hunks.flatMap (normalHunk xs ys)
        (s.print (heading ++ text)).finish 1

/-- A path in a directory. -/
private def below (directory name : Bytes) : Bytes :=
  if directory.getLast? == some '/' then directory ++ name else directory ++ '/' :: name

/-- Compares what two paths lead to. -/
private def comparePaths (o : Options) (args : List Bytes) :
    Nat → Bool → State → Bytes → Bytes → State
  | 0, _, s, _, _ => s
  | fuel + 1, inside, s, p, q =>
    let isDirectory (p : Bytes) : Bool := s.disk.leadsToDirectory s.here p.toText
    let heading := if inside then "diff".toList ++ repeated args ++ ' ' :: p ++ ' ' :: q ++ ['\n']
      else []
    match isDirectory p, isDirectory q with
    | true, true =>
      if inside && !o.has "r" then
        s.print ("Common subdirectories: " ++ String.ofList p ++ " and " ++ String.ofList q ++
          "\n").toList
      else
        let names (p : Bytes) : List Bytes := match s.disk.reach s.here p.toText with
          | .ok l => namesAt s.disk l
          | .error _ => []
        let all := (names p ++ (names q).filter fun n => !(names p).contains n).mergeSort notAfter
        all.foldl (fun s n =>
          let inP := (names p).contains n
          let inQ := (names q).contains n
          if inP && inQ || o.has "N" then comparePaths o args fuel true s (below p n) (below q n)
          else
            let place := if inP then p else q
            (s.print ("Only in " ++ String.ofList place ++ ": " ++ String.ofList n ++
              "\n").toList).finish
              (max s.status 1)) s
    | true, false =>
      if inside then
        (s.print ("File " ++ String.ofList p ++ " is a directory while file " ++ String.ofList q ++
          " is a regular file\n").toList).finish (max s.status 1)
      else comparePaths o args fuel false s (below p (lastName q)) q
    | false, true =>
      if inside then
        (s.print ("File " ++ String.ofList p ++ " is a regular file while file " ++
          String.ofList q ++
          " is a directory\n").toList).finish (max s.status 1)
      else comparePaths o args fuel false s p (below q (lastName p))
    | false, false =>
      let read (s : State) (p : Bytes) : State × Except String Bytes :=
        match content s p with
        | (s, .error reason) =>
          if o.has "N" && reason == "No such file or directory" then (s, .ok [])
          else (s, .error reason)
        | r => r
      let before := s.status
      let (s, a) := read s p
      let (s, b) := if q == p then (s, a) else read s q
      match a, b with
      | .ok a, .ok b =>
        let s := compareTexts o heading (s.finish 0) p q a b
        s.finish (max before s.status)
      | a, b =>
        let complain (s : State) (p : Bytes) : Except String Bytes → State
          | .error reason => s.grumble 2 (String.ofList p ++ ": " ++ reason)
          | .ok _ => s
        complain (complain s p a) q b

def diff (s : State) (args : List Bytes) : State :=
  withFlagsTwice ("a/text b/ignore-space-change B/ignore-blank-lines c C=/context d/minimal e/ed E " ++
    "i/ignore-case L=/label n/rcs N/new-file p/show-c-function q/brief r/recursive " ++
    "s/report-identical-files t/expand-tabs T u U=/unified v w/ignore-all-space x= X= y/side-by-side " ++
    "Z/ignore-trailing-space W=/width /normal /strip-trailing-cr /color? /suppress-common-lines " ++
    "/exclude= /speed-large-files /left-column /no-dereference /from-file= /to-file=") s
    (args.map fun a => if a == "--unified".toList then ['-', 'u']
      else if a == "--context".toList then ['-', 'c'] else a) fun o ps =>
    match ps with
    | [] => refuseTwice s ("missing operand after " ++ quote s.called)
    | [p] => refuseTwice s ("missing operand after " ++ quote p)
    | [p, q] => comparePaths o args 1000 false s p q
    | _ :: _ :: extra :: _ => refuseTwice s ("extra operand " ++ quote extra)

/-- Shows two files side by side. -/
def sdiff (s : State) (args : List Bytes) : State :=
  withFlagsTwice ("a/text b/ignore-space-change B/ignore-blank-lines d/minimal E H i/ignore-case " ++
    "l/left-column o=/output s/suppress-common-lines t/expand-tabs w=/width W/ignore-all-space " ++
    "Z/ignore-trailing-space /strip-trailing-cr") s args fun o ps =>
    let named (k : String) : String := match k with
      | "l" => "left-column"
      | "s" => "suppress-common-lines"
      | "w" => "W"
      | "W" => "w"
      | k => k
    let o : Options := ("y", none) :: o.map fun (k, v) => (named k, v)
    match ps with
    | [] => refuseTwice s ("missing operand after " ++ quote s.called)
    | [p] => refuseTwice s ("missing operand after " ++ quote p)
    | [p, q] => comparePaths o args 1000 false s p q
    | _ :: _ :: extra :: _ => refuseTwice s ("extra operand " ++ quote extra)

end Graft.Shell.Tool
