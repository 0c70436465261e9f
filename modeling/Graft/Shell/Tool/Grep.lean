import Graft.Shell.Regex.Search
import Graft.Shell.Tool.File

/-!
# Finding lines

`grep` prints the lines that match an expression.
-/
namespace Graft.Shell.Tool

/-- What `grep` was asked to do. -/
structure Grep where
  programs : List Regex.Program
  inverted : Bool
  counts : Bool
  /-- Only names of files with (`true`) or without selected lines are printed. -/
  names : Option Bool
  parts : Bool
  quiet : Bool
  numbered : Bool
  offsets : Bool
  withName : Bool
  before : Nat
  after : Nat
  hasContext : Bool
  limit : Option Nat
  asText : Bool
  ignoresBinary : Bool
  nameEnd : Option Char
  mark : Char
  colored : Bool

namespace Grep

/-- The first and longest match of any of the expressions from a place on. -/
def search (g : Grep) (t : Array Char) (start : Nat) : Option (Nat × Nat) :=
  g.programs.foldl (fun best p =>
    match best, (p.search t start false).bind fun m => m.getD 0 none with
    | none, found => found
    | some b, none => some b
    | some (a, z), some (a', z') =>
      if a' < a || (a' == a && z < z') then some (a', z') else some (a, z)) none

/-- The parts of a line that match, in order. -/
def spans (g : Grep) (t : Array Char) : Nat → Nat → List (Nat × Nat)
  | 0, _ => []
  | fuel + 1, start =>
    match g.search t start with
    | none => []
    | some (a, z) =>
      if z == a then (if t.size ≤ a then [] else spans g t fuel (a + 1))
      else (a, z) :: spans g t fuel z

def selects (g : Grep) (l : Bytes) : Bool :=
  let t := l.toArray
  (g.programs.any fun p => (p.search t 0 false).isSome) != g.inverted

/-- The lines of a text with their numbers, offsets, and whether they are selected. No line is
selected after so many. -/
private def lines (g : Grep) (t : Bytes) : List (Nat × Nat × Bytes × Bool) :=
  let ls := if g.mark == '\n' then (Bytes.lines t).map bare
    else
      let parts := Bytes.split g.mark t
      if parts.getLast? == some [] then parts.dropLast else parts
  let (rows, _, _, _) := ls.foldl
    (fun ((rows, n, offset, left) : List (Nat × Nat × Bytes × Bool) × Nat × Nat × Option Nat) l =>
      let isOver := left == some 0
      let isIn := !isOver && g.selects l
      let left := if isIn then left.map (· - 1) else left
      ((n, offset, l, isIn) :: rows, n + 1, offset + l.length + 1, left))
    ([], 1, 0, g.limit)
  rows.reverse

private def start (g : Grep) (name : Bytes) (sign : Char) (n offset : Nat) : Bytes :=
  (if g.withName then name ++ [g.nameEnd.getD sign] else []) ++
    (if g.numbered then (toString n).toList ++ [sign] else []) ++
    (if g.offsets then (toString offset).toList ++ [sign] else [])

/-- A match, in color if that was asked for. -/
private def paint (g : Grep) (part : Bytes) : Bytes :=
  if g.colored then "\x1b[01;31m\x1b[K".toList ++ part ++ "\x1b[m\x1b[K".toList else part

/-- A line with its matches in color. -/
private def painted (g : Grep) (l : Bytes) : Bytes :=
  if !g.colored then l
  else
    let t := l.toArray
    let (text, last) := (g.spans t (t.size + 1) 0).foldl
      (fun ((text, i) : Bytes × Nat) (a, z) =>
        (text ++ (l.drop i).take (a - i) ++ g.paint ((l.drop a).take (z - a)), z)) ([], 0)
    text ++ l.drop last

/-- The text that is printed for the lines of a file. -/
private def shown (g : Grep) (name : Bytes) (rows : List (Nat × Nat × Bytes × Bool)) : Bytes :=
  let near (rows : List (Nat × Nat × Bytes × Bool)) (reach : Nat) : List Bool :=
    (rows.foldl (fun ((flags, left) : List Bool × Nat) row =>
      let left := if row.2.2.2 then reach + 1 else left
      ((0 < left) :: flags, left - 1)) ([], 0)).1
  let after := (near rows g.after).reverse
  let before := near rows.reverse g.before
  let chosen := (rows.zip (after.zip before)).filter fun (_, a, b) => a || b
  let (text, _) := chosen.foldl (fun ((text, last) : List Bytes × Option Nat) (row, _) =>
    let (n, offset, l, isIn) := row
    let gap := g.hasContext && last.any (· + 1 < n)
    let text := if gap then "--\n".toList :: text else text
    let sign := if isIn then ':' else '-'
    let lines := if g.parts then
        if isIn && !g.inverted then
          let t := l.toArray
          (g.spans t (t.size + 1) 0).flatMap fun (a, z) =>
            g.start name ':' n (offset + a) ++ g.paint ((l.drop a).take (z - a)) ++ [g.mark]
        else []
      else g.start name sign n offset ++ (if isIn then g.painted l else l) ++ [g.mark]
    (lines :: text, some n)) ([], none)
  text.reverse.flatten

/-- Looks through a text. The flag says whether a line was selected. -/
def run (g : Grep) (s : State) (name t : Bytes) : State × Bool :=
  let rows := g.lines t
  let count := (rows.filter (·.2.2.2)).length
  let found : Bool := 0 < count
  let isBinary := !g.asText && g.mark == '\n' && t.any (·.toNat == 0)
  let ending : Bytes := match g.nameEnd with
    | some c => [c]
    | none => ['\n']
  if g.quiet then (s, found)
  else if isBinary && g.ignoresBinary then (s, false)
  else
    match g.names with
    | some wanted => (if found == wanted then s.print (name ++ ending) else s, found == wanted)
    | none =>
      if g.counts then
        let start := if g.withName then name ++ [g.nameEnd.getD ':'] else []
        (s.print (start ++ (toString count).toList ++ ['\n']), found)
      else if isBinary && found then
        (s.grumble s.status (String.ofList name ++ ": binary file matches"), found)
      else (s.print (g.shown name rows), found)

end Grep

/-- Writes expressions of the richer dialect in the extended one, as far as that goes. -/
private def simplified : Nat → Bytes → Bytes
  | 0, t => t
  | _, [] => []
  | fuel + 1, '\\' :: 'd' :: r => "[0-9]".toList ++ simplified fuel r
  | fuel + 1, '\\' :: 'D' :: r => "[^0-9]".toList ++ simplified fuel r
  | fuel + 1, '\\' :: 'h' :: r => "[ \t]".toList ++ simplified fuel r
  | fuel + 1, '\\' :: 't' :: r => '\t' :: simplified fuel r
  | fuel + 1, '\\' :: c :: r => '\\' :: c :: simplified fuel r
  | fuel + 1, '(' :: '?' :: ':' :: r => '(' :: simplified fuel r
  | fuel + 1, c :: r => c :: simplified fuel r

private def grepFlags : String :=
  "E/extended-regexp F/fixed-strings G/basic-regexp P/perl-regexp e=/regexp f=/file i/ignore-case y " ++
    "/no-ignore-case w/word-regexp x/line-regexp z/null-data s/no-messages v/invert-match m=/max-count " ++
    "b/byte-offset n/line-number /line-buffered H/with-filename h/no-filename /label= o/only-matching " ++
    "q/quiet/silent /binary-files= a/text I d=/directories D=/devices r/recursive R/dereference-recursive " ++
    "/include= /exclude= /exclude-from= /exclude-dir= L/files-without-match l/files-with-matches c/count " ++
    "T/initial-tab Z/null B=/before-context A=/after-context C=/context /color? /colour? U/binary u"

/-- A number as an option stands for lines around a match. -/
private def withContext (args : List Bytes) : List Bytes :=
  args.map fun a => match a with
    | '-' :: r => if isDigits r then "-C".toList ++ r else a
    | a => a

private def usage (s : State) (message : Option String) : State :=
  let s := match message with
    | some m => s.grumble 2 m
    | none => s
  s.complain 2 ("Usage: " ++ String.ofList s.called ++ " [OPTION]... PATTERNS [FILE]...\nTry '" ++
    String.ofList s.called ++ " --help' for more information.").toList

/-- The files in a directory and below it. -/
private def filesBelow (s : State) (links : Bool) (p : Bytes) : List Bytes :=
  match s.disk.reach s.here p.toText with
  | .error _ => []
  | .ok l =>
    let stem := if p == ['.'] then p else if p.getLast? == some '/' then p.dropLast else p
    let within := (s.disk.entries.filter fun e => e.1.isWithin l && e.1 != l).mergeSort fun a b =>
      Location.compare a.1 b.1 != .gt
    within.filterMap fun (m, item) =>
      let path := stem ++ (m.drop l.length).flatMap fun n => '/' :: Bytes.ofText n
      match item with
      | .file .. => some path
      | .link _ => if links then some path else none
      | .directory => none

private def fitsGlob (pattern name : Bytes) : Bool := (Glob.ofBytes false pattern).covers name

/-- Runs a search with the given ways of writing expressions as the usual one. -/
private def grepWith (kind : String) (s : State) (args : List Bytes) : State :=
  let args := withContext args
  match parse (Flag.all grepFlags) false (Bytes.room args) args with
  | .error message => usage s (some message)
  | .ok (o, ps) =>
    let kind := (o.last? ["E", "F", "G", "P"]).getD kind
    let fileTexts := (o.values "f").map fun f => (f, (content s f).2)
    match fileTexts.find? fun (_, r) => r matches .error _ with
    | some (f, .error reason) => s.grumble 2 (plainly f reason)
    | _ =>
      let fromFiles := fileTexts.flatMap fun (_, r) => match r with
        | .ok t => (Bytes.lines t).map bare
        | .error _ => []
      let given := (o.values "e").flatMap (Bytes.split '\n')
      let hasPattern := o.has "e" || o.has "f"
      match hasPattern, ps with
      | false, [] => usage s none
      | _, _ =>
        let patterns := if hasPattern then given ++ fromFiles else Bytes.split '\n' (ps.headD [])
        let files := if hasPattern then ps else ps.drop 1
        run kind s o patterns files
where
  number (o : Options) (key : String) : Except Bytes (Option Nat) :=
    match o.value? key with
    | none => .ok none
    | some v => if isDigits v then .ok (some (ofDigits v)) else .error v
  run (kind : String) (s : State) (o : Options) (patterns files : List Bytes) : State :=
    let folded := (o.has "i" || o.has "y") && !o.has "no-ignore-case"
    let dialect : Regex.Dialect := ⟨kind == "E" || kind == "P", folded, true, false⟩
    let compiled : Except Regex.Flaw (List Regex.Program) := patterns.mapM fun (t : Bytes) => do
      let r : Regex ← if kind == "F" then .ok (Regex.literal dialect t)
        else Regex.parse dialect (if kind == "P" then simplified (t.length + 1) t else t)
      let between (a b : Anchor) : Regex := .seq (.anchor a) (.seq r (.anchor b))
      let r := if o.has "x" then between .textStart .textEnd
        else if o.has "w" then between .notBehindWord .notBeforeWord else r
      return Regex.Program.ofRegex r
    let s := if kind == "E" then
        (patterns.flatMap Regex.leadingOperators).foldl (fun s c =>
          s.grumble s.status ("warning: " ++ c ++ " at start of expression")) s
      else s
    match compiled, number o "A", number o "B", number o "C", number o "m" with
    | .error f, _, _, _, _ => s.grumble 2 f.message
    | _, .error v, _, _, _ | _, _, .error v, _, _ | _, _, _, .error v, _ =>
      s.grumble 2 (String.ofList v ++ ": invalid context length argument")
    | _, _, _, _, .error _ => s.grumble 2 "invalid max count"
    | .ok programs, .ok after, .ok before, .ok around, .ok limit =>
      let recursive := o.has "r" || o.has "R" ||
        o.value? "d" == some "recurse".toList
      let roots := if files.isEmpty then (if recursive then [['.']] else [['-']]) else files
      let isBare := files.isEmpty && recursive
      let name (p : Bytes) : Bytes :=
        if isBare && ['.', '/'].isPrefixOf p then p.drop 2 else p
      let wanted (p : Bytes) : Bool :=
        let n := lastName p
        let kept := o.values "include"
        (kept.isEmpty || kept.any (fitsGlob · n)) && !(o.values "exclude").any (fitsGlob · n) &&
          !(o.values "exclude-dir").any fun g =>
            ((Bytes.split '/' p).dropLast.filter fun d => d != ['.'] && !d.isEmpty).any (fitsGlob g)
      let isDirectory (p : Bytes) : Bool :=
        p != ['-'] && s.disk.leadsToDirectory s.here p.toText
      let targets : List (Bytes × Bool) := roots.flatMap fun p =>
        if isDirectory p then
          if recursive then ((filesBelow s (o.has "R") p).filter wanted).map (·, false)
          else if o.value? "d" == some "skip".toList then [] else [(p, true)]
        else if wanted p || p == ['-'] then [(p, false)] else []
      let withName := !o.has "h" && (o.has "H" || roots.length > 1 || recursive)
      let g : Grep := {
        programs
        inverted := o.has "v"
        counts := o.has "c"
        names := match o.last? ["l", "L"] with
          | some "l" => some true
          | some _ => some false
          | none => none
        parts := o.has "o"
        quiet := o.has "q"
        numbered := o.has "n"
        offsets := o.has "b"
        withName := if o.last? ["h", "H"] == some "h" then false else withName
        before := (before <|> around).getD 0
        after := (after <|> around).getD 0
        hasContext := before.isSome || after.isSome || around.isSome
        limit
        asText := o.has "a" || o.value? "binary-files" == some "text".toList
        ignoresBinary := o.has "I" || o.value? "binary-files" == some "without-match".toList
        nameEnd := if o.has "Z" then some (Char.ofNat 0) else none
        mark := if o.has "z" then Char.ofNat 0 else '\n'
        colored := o.value? "color" == some "always".toList ||
          o.value? "colour" == some "always".toList }
      let (s, found, failed, _) := targets.foldl
        (fun ((s, found, failed, apart) : State × Bool × Bool × Bool)
            ((p, isDirectory) : Bytes × Bool) =>
          if g.quiet && found then (s, found, failed, apart)
          else if isDirectory then
            (if o.has "s" then s else s.grumble 2 (plainly p "Is a directory"), found, true, apart)
          else
            match content s p with
            | (s, .error reason) =>
              (if o.has "s" then s else s.grumble 2 (String.ofList p ++ ": " ++ reason), found,
                true,
                apart)
            | (s, .ok t) =>
              let label := if p == ['-'] then (o.value? "label").getD "(standard input)".toList
                else name p
              let isNext := apart && g.hasContext && !g.quiet && !g.counts && g.names.isNone &&
                (g.lines t).any (·.2.2.2)
              let s := if isNext then s.print "--\n".toList else s
              let (s, isIn) := g.run s label t
              (s, found || isIn, failed, apart || isIn)) (s, false, false, false)
      s.finish (if g.quiet && found then 0 else if failed then 2 else if found then 0 else 1)

def grep (s : State) (args : List Bytes) : State := grepWith "G" s args

def egrep (s : State) (args : List Bytes) : State := grepWith "E" { s with called := "grep".toList } args

def fgrep (s : State) (args : List Bytes) : State := grepWith "F" { s with called := "grep".toList } args

end Graft.Shell.Tool
