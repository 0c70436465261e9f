import Graft.Data.Calendar
import Graft.Shell.Mode
import Graft.Shell.Tool.Basic

/-!
# Programs for files

Programs that make, copy, move, remove and list files and directories.
-/
namespace Graft.Shell.Tool

/-! ## Places -/

/-- Where a path leads if links on the way are followed, but not one at its end. Nothing need be
there yet. -/
def entryOf (s : State) (p : Bytes) : Except Disk.Fault Location := do
  let d := s.disk
  if p.isEmpty then .error .notFound
  let path := Path.parse p.toText
  let base := if path.absolute then [] else s.here
  let pieces := (path.pieces.reverse.dropWhile (· == .here)).reverse
  match pieces.getLast? with
  | some (.name n) =>
    let parent ← d.walk true Disk.maxLinks base pieces.dropLast
    if !d.isDirectory parent then .error .notDirectory
    if Text.size n > Disk.maxName then .error .nameTooLong
    return parent ++ [n]
  | _ => d.walk true Disk.maxLinks base path.pieces

/-- What stands at a path, a link at its end not followed. -/
def itemOf (s : State) (p : Bytes) : Except Disk.Fault (Location × Disk.Item) := do
  let l ← s.disk.locate false s.here p.toText
  match s.disk.get? l with
  | some item => .ok (l, item)
  | none => .error .notFound

def isDirectoryPath (s : State) (p : Bytes) : Bool :=
  s.disk.leadsToDirectory s.here p.toText

/-- The last name of a path. -/
def lastName (p : Bytes) : Bytes :=
  let trimmed := (p.reverse.dropWhile (· == '/')).reverse
  if trimmed.isEmpty then p.take 1 else (trimmed.reverse.takeWhile (· != '/')).reverse

/-- A path without its last name. -/
def parentPath (p : Bytes) : Bytes :=
  let trimmed := (p.reverse.dropWhile (· == '/')).reverse
  let above := (trimmed.reverse.dropWhile (· != '/')).dropWhile (· == '/') |>.reverse
  if !above.isEmpty then above else if p.head? == some '/' then ['/'] else ['.']

/-- A path within one that leads to a location. -/
def pathWithin (p : Bytes) (top l : Location) : Bytes :=
  p ++ (l.drop top.length).flatMap fun n => '/' :: Bytes.ofText n

def isEmptyDirectory (d : Disk) (l : Location) : Bool := (d.list l).isEmpty

/-- The names in a directory in order. -/
def namesAt (d : Disk) (l : Location) : List Bytes :=
  ((d.list l).map fun e => Bytes.ofText e.1).mergeSort notAfter

/-- Does something for each operand and fails if it fails for one. -/
def forEach (s : State) (ps : List Bytes) (f : State → Bytes → State × Option String) :
    State :=
  ps.foldl (fun s p =>
    match f s p with
    | (s, none) => s
    | (s, some message) => s.grumble 1 message) s

/-! ## Removing -/

/-- Asks a question and reads the answer. -/
def confirm (s : State) (question : String) : State × Bool :=
  let s := { s.write 2 (s.called ++ (": " ++ question ++ " ").toList) with lost := s.lost }
  let t := s.input
  let line := t.takeWhile (· != '\n')
  (s.advance 0 (line.length + 1), line.head? == some 'y' || line.head? == some 'Y')

private def kindText : Disk.Item → String
  | .file content _ => if content.bytes.isEmpty then "regular empty file" else "regular file"
  | .directory => "directory"
  | .link _ => "symbolic link"

/-- What is removed with a location, innermost first. -/
private def removed (d : Disk) (l : Location) : List (Location × Bool) :=
  let all := d.entries.filter (·.1.isWithin l)
  (all.map fun (m, item) => (m, item == .directory)).mergeSort fun a b =>
    Location.compare b.1 a.1 != .gt

/-- Removes a file or a directory with all that is in it, and asks each time. Says whether it is
gone. -/
private def removeAsking (talks : Bool) : Nat → State → Bytes → Location → Disk.Item → State × Bool
  | 0, s, _, _, _ => (s, false)
  | fuel + 1, s, p, l, item =>
    let finish (s : State) : State × Bool :=
      let (s, agreed) := confirm s ("remove " ++ kindText item ++ " " ++ quote p ++ "?")
      if !agreed then (s, false)
      else
        let what := if item == .directory then "removed directory " else "removed "
        let s := if talks then s.print (what ++ quote p ++ "\n").toList else s
        (s.remove l, true)
    if item == .directory && !isEmptyDirectory s.disk l then
      let (s, agreed) := confirm s ("descend into directory " ++ quote p ++ "?")
      if !agreed then (s, false)
      else
        let (s, all) := (namesAt s.disk l).foldl (fun ((s, all) : State × Bool) n =>
          let k := l ++ [Bytes.toText n]
          match s.disk.get? k with
          | some item =>
            let (s, gone) := removeAsking talks fuel s (p ++ '/' :: n) k item
            (s, all && gone)
          | none => (s, all)) (s, true)
        if all then finish s else (s, false)
    else finish s

/-- How often it is asked before something is removed. -/
private inductive Caution where
  | never
  | once
  | always
  deriving DecidableEq

private def cautionOf (o : Options) : Except String Caution :=
  match o.reverse.find? fun (k, _) => ["f", "i", "I", "interactive"].contains k with
  | some ("i", _) | some ("interactive", none) => .ok .always
  | some ("I", _) => .ok .once
  | some ("interactive", some t) =>
    match String.ofList t with
    | "never" | "no" | "none" => .ok .never
    | "once" => .ok .once
    | "always" | "yes" => .ok .always
    | _ =>
      .error ("invalid argument " ++ quote t ++ " for '--interactive'\nValid arguments are:\n" ++
        "  - 'never', 'no', 'none'\n  - 'once'\n  - 'always', 'yes'")
  | _ => .ok .never

/-- Removes what an operand names. -/
private def removeOne (o : Options) (recursive force : Bool) (caution : Caution) (s : State)
    (p : Bytes) : State × Option String :=
  let cannot (reason : String) : State × Option String :=
    (s, some ("cannot remove " ++ quote p ++ ": " ++ reason))
  let name := lastName p
  match itemOf s p with
  | .error .notFound => if force then (s, none) else cannot "No such file or directory"
  | .error f => if force && f == .notDirectory then (s, none) else cannot f.reason
  | .ok (l, item) =>
    let isDirectory := item == .directory
    if recursive && (name == ['.'] || name == ['.', '.']) then
      (s, some ("refusing to remove '.' or '..' directory: skipping " ++ quote p))
    else if recursive && l.isEmpty && !o.has "no-preserve-root" then
      let s := s.grumble 1 ("it is dangerous to operate recursively on " ++
        (if p == ['/'] then "'/'" else quote p ++ " (same as '/')"))
      (s, some "use --no-preserve-root to override this failsafe")
    else if isDirectory && !recursive && !(o.has "d") then cannot "Is a directory"
    else if isDirectory && !recursive && !isEmptyDirectory s.disk l then
      cannot "Directory not empty"
    else if caution == .always then
      ((removeAsking (o.has "v") (s.disk.entries.length + 1) s p l item).1, none)
    else
      let line (e : Location × Bool) : Bytes :=
        let path := p ++ (e.1.drop l.length).flatMap fun n => '/' :: Bytes.ofText n
        ((if e.2 then "removed directory " else "removed ") ++ quote path ++ "\n").toList
      let s := if o.has "v" then s.print ((removed s.disk l).flatMap line) else s
      (s.remove l, none)

def rm (s : State) (args : List Bytes) : State :=
  withFlags ("f/force i I r/recursive R d/dir v/verbose /interactive? /one-file-system " ++
    "/no-preserve-root /preserve-root?") 1 s args fun o ps =>
    match cautionOf o with
    | .error message => refuse s 1 message
    | .ok caution =>
      let recursive := o.has "r" || o.has "R"
      let force := o.last? ["f", "i"] == some "f"
      let count := ps.length
      if ps.isEmpty && !force then missing s 1
      else
        let (s, agreed) : State × Bool := if caution == .once && (recursive || 3 < count) then
            confirm s ("remove " ++ toString count ++
              (if count == 1 then " argument" else " arguments") ++
              (if recursive then " recursively?" else "?"))
          else (s, true)
        if agreed then forEach s ps (removeOne o recursive force caution) else s

def rmdir (s : State) (args : List Bytes) : State :=
  withFlags "p/parents v/verbose /ignore-fail-on-non-empty" 1 s args fun o ps =>
    if ps.isEmpty then missing s 1
    else
      let one (s : State) (p : Bytes) : State × Option String :=
        let cannot (reason : String) : State × Option String :=
          (s, some ("failed to remove " ++ quote p ++ ": " ++ reason))
        match itemOf s p with
        | .error f => cannot f.reason
        | .ok (l, item) =>
          if item != .directory then cannot "Not a directory"
          else if !isEmptyDirectory s.disk l then
            if o.has "ignore-fail-on-non-empty" then (s, none) else cannot "Directory not empty"
          else
            let s := if o.has "v" then
                s.print ("rmdir: removing directory, " ++ quote p ++ "\n").toList
              else s
            (s.remove l, none)
      let parents (p : Bytes) : List Bytes :=
        let parts := (Bytes.split '/' p).filter (!·.isEmpty)
        let root := if p.head? == some '/' then ['/'] else []
        (List.range parts.length).reverse.map fun n => root ++ Text.join ['/'] (parts.take (n + 1))
      ps.foldl (fun s p =>
        let chain := if o.has "p" then p :: (parents p).drop 1 else [p]
        (chain.foldl (fun (s, failed) q =>
          if failed then (s, failed)
          else
            match one s q with
            | (s, none) => (s, false)
            | (s, some message) => (s.grumble 1 message, true)) (s, false)).1) s

/-! ## Making -/

/-- Makes a directory. -/
private def makeDirectory (s : State) (p : Bytes) : Except Disk.Fault State := do
  let l ← entryOf s p
  if (s.disk.get? l).isSome then .error .alreadyExists
  return (s.setDisk (s.disk.set l .directory)).masked l 0o777

/-- The paths of a path from its beginning on. -/
private def prefixes (p : Bytes) : List Bytes :=
  let parts := (Bytes.split '/' p).filter (!·.isEmpty)
  let root := if p.head? == some '/' then ['/'] else []
  (List.range parts.length).map fun n => root ++ Text.join ['/'] (parts.take (n + 1))

def mkdir (s : State) (args : List Bytes) : State :=
  withFlags "p/parents m=/mode v/verbose Z" 1 s args fun o ps =>
    let mode? := (o.value? "m").map fun m => (m, Mode.of? true s.mask m 0o777)
    match ps, mode? with
    | [], _ => missing s 1
    | _, some (m, none) => s.grumble 1 ("invalid mode " ++ quote m)
    | ps, mode? =>
      let announce (s : State) (p : Bytes) : State :=
        if o.has "v" then s.print ("mkdir: created directory " ++ quote p ++ "\n").toList else s
      let finished (s : State) (p : Bytes) : State :=
        match mode?.bind (·.2), entryOf s p with
        | some mode, .ok l => s.setMode l mode
        | _, _ => s
      /- Directories on the way can be entered and filled by their owner. -/
      let opened (s : State) (p : Bytes) : State :=
        match entryOf s p with
        | .ok l => if s.mask &&& 0o300 == 0 then s else s.setMode l (s.modeOf l ||| 0o300)
        | .error _ => s
      forEach s ps fun s p =>
        let cannot (q : Bytes) (f : Disk.Fault) : String :=
          "cannot create directory " ++ quote q ++ ": " ++ f.reason
        if o.has "p" && !p.isEmpty then
          let all := prefixes p
          let last := all.getLast?
          all.foldl (fun ((s, message) : State × Option String) q =>
            if message.isSome then (s, message)
            else if isDirectoryPath s q then (s, none)
            else
              match makeDirectory s q with
              | .ok s =>
                let s := announce s q
                (if some q == last then finished s q else opened s q, none)
              | .error f =>
                let f := if f == .alreadyExists && q.length < p.length then .notDirectory else f
                (s, some (cannot q f))) (s, none)
        else
          match makeDirectory s p with
          | .ok s => (finished (announce s p) p, none)
          | .error f => (s, some (cannot p f))

/-- Runs begin at this moment, in seconds from the beginning of the year 1970. -/
def firstMoment : Int := Calendar.seconds 2026 1 1 0 0 0

/-- A moment as the time of a file. -/
private def timeOf (seconds : Int) : Int := (seconds - firstMoment) * 1000

/-- The moment that digits stand for: month, day, hour and minute, perhaps behind the year, and with
seconds behind a point. -/
private def stampTime? (now : Int) (t : Bytes) : Option Int :=
  let digits := t.takeWhile (· != '.')
  let seconds := (t.drop digits.length).drop 1
  let front : Option Bytes := match digits.length with
    | 8 => some (Calendar.format now ['%', 'Y'])
    | 10 => some (if ofDigits (digits.take 2) < 69 then ['2', '0'] else ['1', '9'])
    | 12 => some []
    | _ => none
  match front with
  | none => none
  | some front =>
    let full := front ++ digits
    let part (first count : Nat) : Nat := ofDigits ((full.drop first).take count)
    let isRight := full.all Char.isDigit && 1 ≤ part 4 2 && part 4 2 ≤ 12 && 1 ≤ part 6 2 &&
      part 6 2 ≤ 31 && part 8 2 < 24 && part 10 2 < 60 && seconds.all Char.isDigit &&
      (seconds.length == 2 || !t.contains '.')
    if isRight then
      some (Calendar.seconds (part 0 4) (part 4 2) (part 6 2) (part 8 2) (part 10 2)
        (ofDigits seconds))
    else none

/-- Makes files that are missing, and sets their times. -/
def touch (s : State) (args : List Bytes) : State :=
  withFlags "a c/no-create d=/date f h/no-dereference m r=/reference t= /time=" 1 s args fun o ps =>
    if ps.isEmpty then refuse s 1 "missing file operand"
    else
      let dateOf (d : Bytes) : Option Int := Calendar.parse? (firstMoment + s.clock / 1000) d
      let time : Option Int := match o.value? "d", o.value? "t", o.value? "r" with
        | some d, _, _ => (dateOf d).map timeOf
        | none, some t, _ => (stampTime? (firstMoment + s.clock / 1000) t).map timeOf
        | none, none, some r => match s.disk.reach s.here r.toText with
          | .ok l => some (s.changed l)
          | .error _ => none
        | none, none, none => none
      match (o.value? "d") <|> (o.value? "t"), o.value? "r", time with
      | some d, _, none => s.grumble 1 ("invalid date format " ++ quote d)
      | none, some r, none =>
        s.grumble 1 ("failed to get attributes of " ++ quote r ++ ": No such file or directory")
      | _, _, _ => run s o ps time
where
  run (s : State) (o : Options) (ps : List Bytes) (time : Option Int) : State :=
    forEach s ps fun s p =>
      let stamped (s : State) (l : Location) : State := match time with
        | some t => s.stampAs l t
        | none => s.stamp l
      if (device? p).isSome then (s, none)
      else
        match (if o.has "h" then (itemOf s p).map (·.1) else s.place p) with
        | .ok l =>
          let isThere := (s.disk.get? l).isSome
          if !isThere && o.has "c" then (s, none)
          else (stamped (if isThere then s else s.store l true []) l, none)
        | .error .isDirectory =>
          match s.disk.reach s.here p.toText with
          | .ok l => (stamped s l, none)
          | .error f =>
            if o.has "c" then (s, none)
            else (s, some ("setting times of " ++ quote p ++ ": " ++ f.reason))
        | .error f =>
          if o.has "c" && f == .notFound then (s, none)
          else (s, some ("cannot touch " ++ quote p ++ ": " ++ f.reason))

/-! ## Paths -/

def readlink (s : State) (args : List Bytes) : State :=
  withFlags ("f/canonicalize e/canonicalize-existing m/canonicalize-missing n/no-newline " ++
    "q/quiet s/silent v/verbose z/zero") 1 s args fun o ps =>
    if ps.isEmpty then missing s 1
    else
      let mark : Bytes := if o.has "n" && ps.length == 1 then []
        else if o.has "z" then [Char.ofNat 0] else ['\n']
      ps.foldl (fun s p =>
        let fail (f : Disk.Fault) : State :=
          if o.has "v" then s.grumble 1 (plainly p f.reason) else s.finish 1
        if o.has "f" || o.has "e" || o.has "m" then
          match resolved s (o.has "e") (o.has "m") p with
          | .ok path => s.print (path ++ mark)
          | .error f => fail f
        else
          match itemOf s p with
          | .ok (_, .link t) => s.print (Bytes.ofText t ++ mark)
          | .ok _ => if o.has "v" then s.grumble 1 (plainly p "Invalid argument") else s.finish 1
          | .error f => fail f) s
where
  /-- The path of a place: all of it, all but its last name, or none of it must exist. -/
  resolved (s : State) (all none' : Bool) (p : Bytes) : Except Disk.Fault Bytes :=
    match s.disk.reach s.here p.toText with
    | .ok l => .ok (.ofText l.display)
    | .error f =>
      if none' then
        .ok (.ofText (Location.display (Location.ofPath s.here (.parse p.toText))))
      else if all then .error f
      else
        match s.place p with
        | .ok l => .ok (.ofText l.display)
        | .error g => .error (if f == .notFound then g else f)

/-- The path from one location to another. -/
def relative (base l : Location) : Bytes :=
  let common := ((base.zip l).takeWhile fun (a, b) => a == b).length
  let ups := List.replicate (base.length - common) ['.', '.']
  let parts := ups ++ (l.drop common).map Bytes.ofText
  if parts.isEmpty then ['.'] else Text.join ['/'] parts

def realpath (s : State) (args : List Bytes) : State :=
  withFlags ("e/canonicalize-existing m/canonicalize-missing L/logical P/physical q/quiet " ++
    "s/strip/no-symlinks z/zero /relative-to= /relative-base=") 1 s args fun o ps =>
    if ps.isEmpty then missing s 1
    else
      let base := (o.value? "relative-to").map fun b =>
        match s.disk.reach s.here b.toText with
        | .ok l => l
        | .error _ => Location.ofPath s.here (.parse b.toText)
      ps.foldl (fun s p =>
        let path := if o.has "s" then
            .ok (Bytes.ofText (Location.display (Location.ofPath s.here (.parse p.toText))))
          else readlink.resolved s (o.has "e") (o.has "m") p
        match path with
        | .ok path =>
          let shown := match base with
            | some b => relative b (Location.ofPath [] (.parse (Bytes.toText path)))
            | none => path
          s.print (shown ++ (if o.has "z" then [Char.ofNat 0] else ['\n']))
        | .error f => if o.has "q" then s.finish 1 else s.grumble 1 (plainly p f.reason)) s

def basename (s : State) (args : List Bytes) : State :=
  withFirstFlags "a/multiple s=/suffix z/zero" 1 s args fun o ps =>
    let short (ending : Bytes) (p : Bytes) : Bytes :=
      let name := lastName p
      if !ending.isEmpty && ending.isSuffixOf name && ending != name then
        name.take (name.length - ending.length)
      else name
    let mark : Bytes := if o.has "z" then [Char.ofNat 0] else ['\n']
    if o.has "a" || o.has "s" then
      if ps.isEmpty then missing s 1
      else s.print (ps.flatMap fun p => short ((o.value? "s").getD []) p ++ mark)
    else
      match ps with
      | [] => missing s 1
      | [p] => s.print (short [] p ++ mark)
      | [p, ending] => s.print (short ending p ++ mark)
      | _ :: _ :: extra :: _ => refuse s 1 ("extra operand " ++ quote extra)

def dirname (s : State) (args : List Bytes) : State :=
  withFlags "z/zero" 1 s args fun o ps =>
    if ps.isEmpty then missing s 1
    else
      let mark : Bytes := if o.has "z" then [Char.ofNat 0] else ['\n']
      s.print (ps.flatMap fun p => parentPath p ++ mark)

/-! ## Sizes -/

def truncate (s : State) (args : List Bytes) : State :=
  withFlags "c/no-create o/io-blocks r=/reference s=/size" 1 s args fun o ps =>
    match o.value? "s", o.value? "r" with
    | none, none => refuse s 1 "you must specify either '--size' or '--reference'"
    | v, r =>
      if ps.isEmpty then refuse s 1 "missing file operand"
      else
        let v := v.getD []
        let (sign, number) := match v with
          | c :: r => if "+-<>/%".toList.contains c then (some c, r) else (none, v)
          | [] => (none, v)
        let base := (r.bind fun r => (s.load r).toOption).map List.length
        match sized? number, base with
        | none, none => s.grumble 1 ("Invalid number: " ++ quote v)
        | n, base =>
          let n := n.getD (base.getD 0)
          forEach s ps fun s p =>
            match s.place p with
            | .error f => (s, some ("cannot open " ++ quote p ++ " for writing: " ++ f.reason))
            | .ok l =>
              let old := (State.bytesAt s.disk l).getD []
              let isThere := (s.disk.get? l).isSome
              if !isThere && o.has "c" then (s, none)
              else
                let size := match sign with
                  | some '+' => old.length + n
                  | some '-' => old.length - n
                  | some '<' => min old.length n
                  | some '>' => max old.length n
                  | some '/' => if n == 0 then 0 else old.length / n * n
                  | some '%' => if n == 0 then 0 else (old.length + n - 1) / n * n
                  | _ => n
                let b := old.take size ++ List.replicate (size - old.length) (Char.ofNat 0)
                (s.store l false b, none)

/-! ## Temporary files -/

private def nameLetters : Array Char :=
  "ABCDEFGHIJKLMNOPQRSTUVWXYZabcdefghijklmnopqrstuvwxyz0123456789".toList.toArray

/-- Letters made of a number. -/
private def lettersOf : Nat → Nat → Bytes
  | 0, _ => []
  | count + 1, n => nameLetters.getD (n % 62) 'A' :: lettersOf count (n / 62 + 7 * n + 13)

/-- Replaces the marks at the end of a template by letters. -/
private def filled (template ending : Bytes) (seed : Nat) : Bytes :=
  let marks := (template.reverse.takeWhile (· == 'X')).length
  template.take (template.length - marks) ++ lettersOf marks seed ++ ending

def mktemp (s : State) (args : List Bytes) : State :=
  withFlags "d/directory u/dry-run q/quiet p= /tmpdir? t /suffix=" 1 s args fun o ps =>
    let directory := o.value? "p" <|> o.value? "tmpdir" <|> s.textOf "TMPDIR"
    let usesTemporary := ps.isEmpty || o.has "p" || o.has "tmpdir" || o.has "t"
    let template := ps.headD "tmp.XXXXXXXXXX".toList
    let ending := (o.value? "suffix").getD []
    if !"XXX".toList.isSuffixOf template then
      s.grumble 1 ("too few X's in template " ++ quote template)
    else
      let path (seed : Nat) : Bytes :=
        let name := filled template ending seed
        if usesTemporary then (directory.getD "/tmp".toList) ++ '/' :: name else name
      let free := (List.range 1000).find? fun n => match itemOf s (path (s.changes + n)) with
        | .error .notFound => true
        | _ => false
      let p := path (s.changes + free.getD 0)
      let s := { s with changes := s.changes + 1 }
      let made : Except Disk.Fault State :=
        if o.has "u" then .ok s
        else if o.has "d" then (makeDirectory s p).map fun s =>
          match entryOf s p with
          | .ok l => s.setMode l 0o700
          | .error _ => s
        else (s.place p).map fun l => (s.store l false []).setMode l 0o600
      match made with
      | .ok s => s.print (p ++ ['\n'])
      | .error f =>
        let kind := if o.has "d" then "directory" else "file"
        let shown := if usesTemporary then (directory.getD "/tmp".toList) ++ '/' :: template
          else template
        s.grumble 1 ("failed to create " ++ kind ++ " via template " ++ quote (shown ++ ending) ++
          ": " ++ f.reason)

end Graft.Shell.Tool
