import Graft.Shell.Regex.Replace
import Graft.Shell.Tool.File
import Graft.Shell.Tool.Sed.Script

/-!
# Editing streams

`sed` applies the commands of a script to one line after another.
-/
namespace Graft.Shell.Tool.Sed

/-- A line without its end, and whether it had one. -/
structure Line where
  text : Bytes
  isEnded : Bool

/-- An input: its name and its lines. -/
structure Input where
  name : Bytes
  lines : List Line

/-- What is put out at the end of a cycle. -/
inductive Later where
  | text (b : Bytes)
  | file (path : Bytes)

/-- A range of lines that has begun. -/
inductive Progress where
  | upTo (n : Nat)
  | untilMatch

structure Machine where
  state : State
  script : Script
  quiet : Bool
  separate : Bool
  mark : Char
  /-- Where the output goes if it is kept: the pieces, last first. -/
  kept : Option (List Bytes)
  inputs : List Input
  lines : List Line
  name : Bytes
  /-- The bytes of the lines that were read. -/
  taken : Nat
  number : Nat
  space : Bytes
  isEnded : Bool
  held : Bytes
  ranges : List (Nat × Progress)
  queue : List Later
  isChanged : Bool
  regex : Option (Regex.Program × Bool)
  /-- The last line was put out without its end. -/
  isOpen : Bool
  /-- The lines that are left of files that are read line by line. -/
  readers : List (Bytes × List Bytes)
  /-- A status that ends the run. -/
  ended : Option Nat
  width : Nat

namespace Machine

/-! ## Output -/

def emit (m : Machine) (b : Bytes) : Machine :=
  match m.kept with
  | some pieces => { m with kept := some (b :: pieces) }
  | none => { m with state := m.state.print b }

/-- Puts out text behind a whole line. -/
def put (m : Machine) (b : Bytes) : Machine :=
  let m := if m.isOpen then { m with isOpen := false }.emit [m.mark] else m
  m.emit b

/-- Puts out a line; its end is left out if the line had none. -/
def putLine (m : Machine) (b : Bytes) (isEnded : Bool) : Machine :=
  if isEnded then m.put (b ++ [m.mark]) else { m.put b with isOpen := true }

/-- Writes a line to a file. -/
def writeTo (m : Machine) (path b : Bytes) : Machine :=
  match device? path with
  | some .output => { m with state := m.state.print b }
  | some .errors => { m with state := { m.state.write 2 b with lost := m.state.lost } }
  | some _ => m
  | none =>
    match m.state.place path with
    | .ok l => { m with state := m.state.store l true b }
    | .error _ => m

/-- Puts out what was kept for the end of the cycle. -/
def flush (m : Machine) : Machine :=
  m.queue.reverse.foldl (fun m later =>
    match later with
    | .text b => m.put b
    | .file path =>
      match content m.state path with
      | (s, .ok b) => if b.isEmpty then m else { m with state := s }.put b
      | (_, .error _) => m) { m with queue := [] }

/-! ## Input -/

/-- Goes to the next input that has lines, unless inputs are separate. -/
private def skipEmpty (m : Machine) : Machine :=
  match m.lines with
  | _ :: _ => m
  | [] =>
    match m.inputs.dropWhile (·.lines.isEmpty) with
    | [] => { m with inputs := [] }
    | i :: rest => { m with inputs := rest, lines := i.lines, name := i.name }

def isLast (m : Machine) : Bool :=
  m.lines.isEmpty && (m.separate || m.inputs.all (·.lines.isEmpty))

/-- Reads the next line, in place of the last one or behind it. -/
def read (m : Machine) (behind : Bool) : Option Machine :=
  let m := (if m.separate then m else m.skipEmpty).flush
  match m.lines with
  | [] => none
  | l :: rest =>
    some { m with
      lines := rest
      taken := m.taken + l.text.length + (if l.isEnded then 1 else 0)
      number := m.number + 1
      space := if behind then m.space ++ m.mark :: l.text else l.text
      isEnded := l.isEnded
      isChanged := false }

/-! ## Addresses -/

/-- The expression that is meant, and the machine that remembers it. -/
def regexFor (m : Machine) (r : Option Regex.Program) (lines : Bool) :
    Machine × Option (Regex.Program × Bool) :=
  match r with
  | some p => ({ m with regex := some (p, lines) }, some (p, lines))
  | none =>
    match m.regex with
    | some q => (m, some q)
    | none =>
      let s := m.state.grumble 1 "-e expression #1, char 0: no previous regular expression"
      ({ m with state := s, ended := some 1 }, none)

def fits (m : Machine) : Address → Machine × Bool
  | .line n => (m, m.number == n)
  | .last => (m, m.isLast)
  | .every first step =>
    (m, if step == 0 then m.number == first
      else first ≤ m.number && (m.number - first) % step == 0)
  | .regex r lines =>
    match m.regexFor r lines with
    | (m, some (p, lines)) => (m, (p.search m.space.toArray 0 lines).isSome)
    | (m, none) => (m, false)

/-- Whether the command with a number is for this line. -/
def selects (m : Machine) (index : Nat) (sel : Selector) : Machine × Bool :=
  let without := m.ranges.filter (·.1 != index)
  let started (p : Progress) (m : Machine) : Machine :=
    { m with ranges := (index, p) :: m.ranges.filter (·.1 != index) }
  let (m, isIn) : Machine × Bool := match sel.first, sel.second with
    | none, _ => (m, true)
    | some a, none => m.fits a
    | some a, some reach =>
      match m.ranges.lookup index with
      | some (.upTo n) =>
        let m := if n ≤ m.number then { m with ranges := without } else m
        (m, m.number ≤ n)
      | some .untilMatch =>
        match reach with
        | .upTo b =>
          let (m, isEnd) := m.fits b
          (if isEnd then { m with ranges := without } else m, true)
        | _ => (m, true)
      | none =>
        let (m, isStart) : Machine × Bool := match a with
          | .line 0 => (m, m.number == 1)
          | a => m.fits a
        if !isStart then (m, false)
        else
          match reach with
          | .plus n => (if n == 0 then m else started (.upTo (m.number + n)) m, true)
          | .multiple n =>
            (if n == 0 then m else started (.upTo (m.number / n * n + n)) m, true)
          | .upTo (.line n) => (if n ≤ m.number then m else started (.upTo n) m, true)
          | .upTo b =>
            match a with
            | .line 0 =>
              let (m, isEnd) := m.fits b
              (if isEnd then m else started .untilMatch m, true)
            | _ => (started .untilMatch m, true)
  (m, isIn != sel.negated)

/-! ## Substitution -/

/-- Letters in the case that is asked for: all of a text, and its first letter. -/
private def cased (mode first : Casing) (b : Bytes) : Bytes :=
  let all := match mode with
    | .upper => b.map Char.toUpper
    | .lower => b.map Char.toLower
    | _ => b
  match first, all with
  | .upperFirst, c :: r => c.toUpper :: r
  | .lowerFirst, c :: r => c.toLower :: r
  | _, all => all

/-- The text that replaces a match. -/
private def expanded (parts : List Part) (t : Array Char) (found : Regex.Match) : Bytes :=
  let (pieces, _, _) := parts.foldl
    (fun ((pieces, mode, first) : List Bytes × Casing × Casing) part =>
      let add (b : Bytes) : List Bytes × Casing × Casing :=
        if b.isEmpty then (pieces, mode, first) else (cased mode first b :: pieces, mode, .plain)
      match part with
      | .text b => add b
      | .group n =>
        match found.getD n none with
        | some (a, z) => add (t.extract a z).toList
        | none => (pieces, mode, first)
      | .casing .upperFirst => (pieces, mode, .upperFirst)
      | .casing .lowerFirst => (pieces, mode, .lowerFirst)
      | .casing c => (pieces, c, .plain)) ([], .plain, .plain)
  pieces.reverse.flatten

/-- Runs a command and takes what it prints as the text. -/
private def evaluate (launch : Launch) (m : Machine) : Machine :=
  let (s, out, _) := launch.capture m.state ["sh".toList, "-c".toList, m.space]
  { m with state := s, space := if out.getLast? == some m.mark then out.dropLast else out }

def substitute (launch : Launch) (m : Machine) (s : Substitution) : Machine :=
  match m.regexFor s.regex s.lines with
  | (m, none) => m
  | (m, some (p, lines)) =>
    let lines := s.lines || (s.regex.isNone && lines)
    let t := m.space.toArray
    let (new, count) := p.replace m.space lines ⟨s.number, s.isGlobal⟩ (expanded s.parts t)
    if count = 0 then m
    else
      let m := { m with space := new, isChanged := true }
      let m := if s.evaluates then evaluate launch m else m
      let m := if s.prints then m.putLine m.space m.isEnded else m
      match s.file with
      | some path => m.writeTo path (m.space ++ [m.mark])
      | none => m

/-! ## Commands -/

/-- The text of a line with escapes, in lines of a width. -/
private def listed (width : Nat) (b : Bytes) : Bytes :=
  let piece (c : Char) : Bytes := match c with
    | '\\' => ['\\', '\\']
    | '\n' => ['\\', 'n']
    | '\t' => ['\\', 't']
    | '\r' => ['\\', 'r']
    | '\x07' => ['\\', 'a']
    | '\x08' => ['\\', 'b']
    | '\x0c' => ['\\', 'f']
    | '\x0b' => ['\\', 'v']
    | c =>
      if ' ' ≤ c && c ≤ '~' then [c]
      else
        let n := c.toNat
        '\\' :: [n / 64, n / 8 % 8, n % 8].map fun d => Char.ofNat (d + '0'.toNat)
  let (done, _) := b.foldl (fun ((done, column) : Bytes × Nat) c =>
    let p := piece c
    if 0 < width && width - 1 < column + p.length then
      (p.reverse ++ '\n' :: '\\' :: done, p.length)
    else (p.reverse ++ done, column + p.length)) ([], 0)
  done.reverse ++ ['$', '\n']

private def firstLine (m : Machine) : Bytes := m.space.takeWhile (· != m.mark)

private def hasMore (m : Machine) : Bool := m.space.contains m.mark

/-- How a pass through the script ended. -/
inductive Pass where
  /-- The line is put out, unless that is unwanted. -/
  | done
  /-- The line is not put out. -/
  | dropped
  /-- The line is not put out, and the next pass begins without reading one. -/
  | again

/-- Takes the next line of a file that is read line by line. -/
private def nextOf (m : Machine) (path : Bytes) : Machine × Option Bytes :=
  let left := match m.readers.lookup path with
    | some ls => ls
    | none =>
      match (content m.state path).2 with
      | .ok b => Bytes.lines b
      | .error _ => []
  let keep (ls : List Bytes) : Machine :=
    { m with readers := (path, ls) :: m.readers.filter (·.1 != path) }
  match left with
  | [] => (keep [], none)
  | l :: ls => (keep ls, some (Tool.ended l))

/-- Runs the commands from one on. -/
private def run (launch : Launch) : Nat → Machine → Nat → Machine × Pass
  | 0, m, _ => (m, .done)
  | fuel + 1, m, i =>
    if m.ended.isSome || m.state.halt.isSome then (m, .dropped)
    else
      match m.script.commands[i]? with
      | none => (m, .done)
      | some (sel, v) =>
        let (m, isIn) := m.selects i sel
        if m.ended.isSome then (m, .dropped)
        else if !isIn then
          match v with
          | .block stop => run launch fuel m stop
          | _ => run launch fuel m (i + 1)
        else
          let goOn (m : Machine) : Machine × Pass := run launch fuel m (i + 1)
          let target (l : Bytes) : Nat :=
            if l.isEmpty then m.script.commands.size
            else (m.script.labels.lookup l).getD m.script.commands.size
          match v with
          | .block _ | .nothing => goOn m
          | .append t => goOn { m with queue := .text t :: m.queue }
          | .insert t => goOn (m.put t)
          | .change t =>
            let isWithin : Bool := (m.ranges.lookup i).isSome && !sel.negated
            (if isWithin then m else m.put t, .dropped)
          | .delete => (m, .dropped)
          | .deleteFirst =>
            if m.hasMore then
              ({ m with space := (m.space.dropWhile (· != m.mark)).drop 1 }, .again)
            else (m, .dropped)
          | .print => goOn (m.putLine m.space m.isEnded)
          | .printFirst => goOn (m.putLine m.firstLine true)
          | .lineNumber => goOn (m.put ((toString m.number).toList ++ ['\n']))
          | .list w => goOn (m.put (listed (w.getD m.width) m.space))
          | .next =>
            if m.isLast then (m, .done)
            else
              let m := if m.quiet then m else m.putLine m.space m.isEnded
              match m.read false with
              | some m => goOn m
              | none => (m, .dropped)
          | .nextBehind =>
            match (if m.isLast then none else m.read true) with
            | some m => goOn m
            | none => (m, .done)
          | .quit status silent =>
            let m := if silent || m.quiet then m else m.putLine m.space m.isEnded
            let m := if silent then m else m.flush
            ({ m with ended := some status }, .dropped)
          | .readFile p => goOn { m with queue := .file p :: m.queue }
          | .readLine p =>
            match m.nextOf p with
            | (m, some l) => goOn { m with queue := .text l :: m.queue }
            | (m, none) => goOn m
          | .writeFile p => goOn (m.writeTo p (m.space ++ [m.mark]))
          | .writeFirst p => goOn (m.writeTo p (m.firstLine ++ [m.mark]))
          | .substitute s => goOn (substitute launch m s)
          | .exchange pairs =>
            goOn { m with space := m.space.map fun c => (pairs.lookup c).getD c }
          | .hold behind =>
            goOn { m with held := if behind then m.held ++ m.mark :: m.space else m.space }
          | .fetch behind =>
            goOn { m with space := if behind then m.space ++ m.mark :: m.held else m.held }
          | .swap => goOn { m with space := m.held, held := m.space }
          | .jump l => run launch fuel m (target l)
          | .jumpIfChanged l =>
            if m.isChanged then run launch fuel { m with isChanged := false } (target l) else goOn m
          | .jumpUnlessChanged l =>
            if m.isChanged then goOn { m with isChanged := false } else run launch fuel m (target l)
          | .clear => goOn { m with space := [] }
          | .fileName => goOn (m.put (m.name ++ ['\n']))
          | .execute [] => goOn (evaluate launch m)
          | .execute command =>
            let (s, out, _) := launch.capture m.state ["sh".toList, "-c".toList, command]
            goOn ({ m with state := s }.put out)

/-- Passes through the script line by line. -/
private def cycles (launch : Launch) : Nat → Machine → Bool → Machine
  | 0, m, _ => m
  | fuel + 1, m, again =>
    match (if again then some m.flush else m.read false) with
    | none => m
    | some m =>
      let (m, pass) := run launch (Nat.pow 2 40) m 0
      if m.ended.isSome || m.state.halt.isSome || m.state.lost.isSome then m
      else
        match pass with
        | .done => cycles launch fuel (if m.quiet then m else m.putLine m.space m.isEnded) false
        | .dropped => cycles launch fuel m false
        | .again => cycles launch fuel m true

/-- Edits all lines of the inputs together. -/
def edit (launch : Launch) (m : Machine) : Machine := (cycles launch (Nat.pow 2 40) m false).flush

end Machine

/-! ## Files -/

/-- The lines of a text. -/
private def linesOf (mark : Char) (t : Bytes) : List Line :=
  if mark == '\n' then
    (Bytes.lines t).map fun l => ⟨bare l, l.getLast? == some '\n'⟩
  else
    let parts := Bytes.split mark t
    let whole := parts.dropLast.map fun p => (⟨p, true⟩ : Line)
    match parts.getLast? with
    | some [] | none => whole
    | some p => whole ++ [⟨p, false⟩]

/-- The name of the copy that is kept of an edited file. -/
private def backupName (path ending : Bytes) : Bytes :=
  let name := lastName path
  let above := path.take (path.length - name.length)
  if ending.contains '*' then
    let new := ending.flatMap fun c => if c == '*' then name else [c]
    if new.contains '/' then new else above ++ new
  else above ++ name ++ ending

/-- A script or a part of it: the file it came from, or nothing, and its text. -/
structure Passage where
  file : Option Bytes
  text : Bytes

/-- Where in the sources something is wrong. -/
private def placeOf (sources : List Passage) (position : Nat) : String :=
  let rec go : List Passage → Nat → Nat → String
    | [], n, _ => "-e expression #" ++ toString n ++ ", char 0"
    | src :: rest, n, position =>
      if position ≤ src.text.length || rest.isEmpty then
        match src.file with
        | some f =>
          let line := ((src.text.take (position - 1)).filter (· == '\n')).length + 1
          "file " ++ String.ofList f ++ " line " ++ toString line
        | none => "-e expression #" ++ toString n ++ ", char " ++ toString position
      else go rest (if src.file.isNone then n + 1 else n) (position - src.text.length - 1)
  go sources 1 position

/-- The files that a script writes. They are emptied first. -/
private def written (s : Script) : List Bytes :=
  s.commands.toList.filterMap fun (_, v) => match v with
    | .writeFile p | .writeFirst p => some p
    | .substitute s => s.file
    | _ => none

private def sedFlags : String :=
  "n/quiet/silent e=/expression f=/file E r/regexp-extended i?/in-place l=/line-length s/separate " ++
    "u/unbuffered z/null-data /posix /debug /follow-symlinks /sandbox"

private def usage (s : State) (message : Option String) : State :=
  let s := match message with
    | some m => s.grumble 1 m
    | none => s
  s.complain 1 ("Usage: " ++ String.ofList s.called ++
    " [OPTION]... \x7bscript-only-if-no-other-script\x7d [input-file]...\n").toList

end Graft.Shell.Tool.Sed

namespace Graft.Shell.Tool

open Sed in
/-- Runs a script over files. -/
private def sedWith (launch : Launch) (s : State) (o : Options) (script : Script)
    (files : List Bytes) : State :=
  let mark : Char := if o.has "z" then Char.ofNat 0 else '\n'
  let s := (written script).eraseDups.foldl (fun s p =>
    match device? p, s.place p with
    | none, .ok l => s.store l false []
    | none, .error f => s.grumble 4 ("couldn't open file " ++ String.ofList p ++ ": " ++ f.reason)
    | some _, _ => s) s
  if s.status == 4 then s
  else
    let inPlace := o.has "i"
    let first : Machine := {
      state := s
      script
      quiet := o.has "n"
      separate := o.has "s" || inPlace
      mark
      kept := none
      inputs := []
      lines := []
      name := []
      taken := 0
      number := 0
      space := []
      isEnded := true
      held := []
      ranges := []
      queue := []
      isChanged := false
      regex := none
      isOpen := false
      readers := []
      ended := none
      width := ((o.value? "l").map ofDigits).getD 70 }
    let fault (s : State) (p : Bytes) (reason : String) : State :=
      if reason == "Is a directory" then
        if inPlace then s.grumble 4 ("couldn't edit " ++ String.ofList p ++ ": not a regular file")
        else s.grumble 4 ("read error on " ++ String.ofList p ++ ": " ++ reason)
      else s.grumble 2 ("can't read " ++ String.ofList p ++ ": " ++ reason)
    let finished (m : Machine) : State :=
      m.state.finish (match m.ended with
        | some n => if n == 0 then m.state.status else n
        | none => m.state.status)
    if inPlace then
      if files.isEmpty then s.grumble 4 "no input files"
      else
        let m := files.foldl (fun (m : Machine) p =>
          if m.ended.isSome then m
          else
            match content m.state p with
            | (s, .error reason) => { m with state := fault s p reason }
            | (s, .ok t) =>
              let m := { m with
                state := s, kept := some [], lines := linesOf mark t, name := p, number := 0 }
              let m := m.edit launch
              let new := ((m.kept.getD []).reverse.flatten)
              let m := { m with kept := none, isOpen := false }
              let s := m.state
              match (if o.has "follow-symlinks" then s.place p else entryOf s p) with
              | .error _ => m
              | .ok l =>
                let mode := match s.disk.reach s.here p.toText with
                  | .ok k => s.modeOf k
                  | .error _ => s.modeOf l
                match (o.value? "i").map fun ending => entryOf s (backupName p ending) with
                | some (.error f) =>
                  let s := s.grumble 4 ("cannot rename " ++ String.ofList p ++ ": " ++ f.reason)
                  { m with state := s, ended := some 4 }
                | backup =>
                  let s := match backup with
                    | some (.ok k) => s.rename l k
                    | _ => s.remove l
                  { m with state := (s.store l false new).setMode l mode }) first
        finished m
    else
      let files := if files.isEmpty then [['-']] else files
      let (s, inputs) := files.foldl (fun ((s, inputs) : State × List Input) p =>
        let before := s
        match content s p with
        | (s, .ok t) =>
          let isKept := p == ['-'] && before.isSeekable 0
          (if isKept then before else s, ⟨p, linesOf mark t⟩ :: inputs)
        | (s, .error reason) => (fault s p reason, inputs)) (s, [])
      let isStarved := s.starved
      let inputs := inputs.reverse
      let isInput := files == [['-']] && s.isSeekable 0
      let done (m : Machine) : State :=
        let m := { m with state := { m.state with starved := isStarved && m.ended.isNone } }
        if isInput then finished { m with state := m.state.advance 0 m.taken } else finished m
      if first.separate then
        done (inputs.foldl (fun (m : Machine) i =>
          if m.ended.isSome then m
          else { m with lines := i.lines, name := i.name, number := 0 }.edit launch)
          { first with state := s })
      else done ({ first with state := s, inputs }.edit launch)

open Sed in
def sed (launch : Launch) (s : State) (args : List Bytes) : State :=
  match parse (Flag.all sedFlags) false (Bytes.room args) args with
  | .error message => Sed.usage s (some message)
  | .ok (o, ps) =>
    let given : List (Except String Passage) := o.filterMap fun (k, v) =>
      match k, v with
      | "e", some t => some (.ok ⟨none, t⟩)
      | "f", some p =>
        some (match content s p with
          | (_, .ok t) => .ok ⟨some p, bare t⟩
          | (_, .error reason) =>
              .error ("couldn't open file " ++ String.ofList p ++ ": " ++ reason))
      | _, _ => none
    match given.mapM id, ps with
    | .error message, _ => s.grumble 1 message
    | .ok [], [] => Sed.usage s none
    | .ok given, ps =>
      let (sources, files) : List Passage × List Bytes := match given, ps with
        | [], t :: ps => ([⟨none, t⟩], ps)
        | given, ps => (given, ps)
      let text := Text.join ['\n'] (sources.map (·.text))
      let o := if "#n\n".toList.isPrefixOf text || text == "#n".toList then o ++ [("n", none)]
        else o
      match Script.parse (o.has "E" || o.has "r") text with
      | .error f =>
        if text.length < f.left then
          s.grumble 1 ("-e expression #" ++ toString sources.length ++ ", char 0: " ++ f.message)
        else s.grumble 1 (placeOf sources (text.length - f.left) ++ ": " ++ f.message)
      | .ok script =>
        match script.missing? with
        | some l => s.grumble 4 ("can't find label for jump to \x60" ++ String.ofList l ++ "'")
        | none => sedWith launch s o script files

end Graft.Shell.Tool
