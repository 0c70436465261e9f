import Graft.Shell.Account
import Graft.Shell.Regex.Search
import Graft.Shell.Tool.Listing
import Graft.Shell.Tool.System

/-!
# Searching trees of files

`find` walks through directories and does what an expression says with all that it meets.
-/
namespace Graft.Shell.Tool

namespace Find

/-- How a number is compared: exactly, as less, or as more. -/
inductive Bound where
  | exactly
  | less
  | more
  deriving DecidableEq, Repr

/-- How a fact is fitted into a field. -/
structure Field where
  isLeft : Bool
  isZeroed : Bool
  width : Nat
  most : Option Nat

/-- A part of what is printed for a file. -/
inductive Directive where
  | text (t : Bytes)
  | fact (f : Field) (letter : Char)
  | time (f : Field) (letter : Char)
  /-- Ends the printing. -/
  | stop

inductive Expression where
  | always
  | never
  | not (e : Expression)
  | and (a b : Expression)
  | or (a b : Expression)
  | list (a b : Expression)
  | name (g : Glob) (folded : Bool)
  | path (g : Glob) (folded : Bool)
  | target (g : Glob) (folded : Bool)
  | regex (p : Regex.Program)
  | kind (letters : List Char)
  /-- The kind of what a link leads to, if links are not followed, or else of the link. -/
  | otherKind (letters : List Char)
  | empty
  | size (b : Bound) (n unit : Nat)
  | links (b : Bound) (n : Nat)
  | newer (time : Int)
  /-- The age in units of so many milliseconds. -/
  | age (b : Bound) (n : Nat) (unit : Nat)
  | permissions (mark : Option Char) (mode : Nat)
  | executable
  | sameAs (l : Location)
  | print (mark : Char)
  | printTo (path : Bytes)
  | printf (format : List Directive)
  | describe
  /-- Runs a command for each file; in its directory, or after a question. -/
  | execute (words : List Bytes) (inside asks : Bool)
  /-- Runs a command for many files at once. The number tells such commands apart. -/
  | gather (number : Nat) (words : List Bytes)
  | delete
  | prune
  | quit

/-- What holds for the whole search. -/
structure Settings where
  least : Nat
  most : Option Nat
  /-- What a directory holds comes before itself. -/
  isDeep : Bool
  follows : Bool
  /-- Follows the links among the paths that are given. -/
  begins : Bool
  extended : Bool
  /-- Some action is asked for, so that paths are not printed by themselves. -/
  acts : Bool
  /-- How many commands take many files. -/
  gathers : Nat

/-! ## Reading expressions -/

structure Reader where
  rest : List Bytes
  settings : Settings
  state : State

abbrev Reading := StateT Reader (Except String)

private def bounded? (t : Bytes) : Option (Bound × Nat) :=
  let (b, ds) : Bound × Bytes := match t with
    | '+' :: r => (.more, r)
    | '-' :: r => (.less, r)
    | r => (.exactly, r)
  if isDigits ds then some (b, ofDigits ds) else none

private def take? : Reading (Option Bytes) := do
  let r : Reader ← get
  match r.rest with
  | [] => return none
  | a :: rest =>
    set { r with rest }
    return some a

/-- The argument of a test. -/
private def argument (name : Bytes) : Reading Bytes := do
  match ← take? with
  | some a => return a
  | none => throw ("missing argument to \x60" ++ String.ofList name ++ "'")

private def settle (f : Settings → Settings) : Reading Unit :=
  modify fun r => { r with settings := f r.settings }

private def act (e : Expression) : Reading Expression := do
  settle fun s => { s with acts := true }
  return e

private def fold (isFolded : Bool) (t : Bytes) : Bytes := if isFolded then t.map Char.toLower else t

/-- A pattern in which a backslash takes away the meaning of a character. -/
private def globOf (isFolded : Bool) : Bytes → Glob
  | '\\' :: c :: r => (if isFolded then c.toLower else c, true) :: globOf isFolded r
  | c :: r => (if isFolded then c.toLower else c, false) :: globOf isFolded r
  | [] => []

/-- An expression in which the signs for repetition stand without backslashes. -/
private def withSigns : Bytes → Bytes
  | '\\' :: c :: r => if c == '+' || c == '?' then c :: withSigns r else '\\' :: c :: withSigns r
  | c :: r => if c == '+' || c == '?' then '\\' :: c :: withSigns r else c :: withSigns r
  | [] => []

/-- The words of a command up to its end, and whether it takes many files. -/
private def commandWords (name : Bytes) : Nat → List Bytes → Reading (List Bytes × Bool)
  | 0, _ => throw ""
  | fuel + 1, done => do
    match ← take? with
    | none => throw ("missing argument to \x60" ++ String.ofList name ++ "'")
    | some [';'] =>
      if done.isEmpty then throw ("missing argument to \x60" ++ String.ofList name ++ "'")
      return (done.reverse, false)
    | some ['+'] =>
      if done.head? == some ['\x7b', '\x7d'] then return (done.tail.reverse, true)
      else commandWords name fuel (['+'] :: done)
    | some w => commandWords name fuel (w :: done)

private def sizeOf (t : Bytes) : Except String Expression := do
  let last := t.getLast?.getD ' '
  let unit? : Option Nat := match last with
    | 'b' => some 512
    | 'c' => some 1
    | 'w' => some 2
    | 'k' => some 1024
    | 'M' => some (Nat.pow 1024 2)
    | 'G' => some (Nat.pow 1024 3)
    | _ => none
  match unit? with
  | some unit =>
    match bounded? t.dropLast with
    | some (b, n) => .ok (.size b n unit)
    | none => .error ("Invalid argument \x60" ++ String.ofList t ++ "' to -size")
  | none =>
    if !last.isDigit then .error ("invalid -size type \x60" ++ last.toString ++ "'")
    else
      match bounded? t with
      | some (b, n) => .ok (.size b n 512)
      | none => .error ("Invalid argument \x60" ++ String.ofList t ++ "' to -size")

/-- The letters of facts that can be printed. -/
private def factLetters : List Char := "pfhPHsdmMnuUgGkbiDlyYtac".toList

/-- Reads a format. The warnings come last first. -/
private def directives :
    Nat → List Directive → List String → Bytes → Except String (List Directive × List String)
  | 0, done, warnings, _ => .ok (done.reverse, warnings.reverse)
  | _, done, warnings, [] => .ok (done.reverse, warnings.reverse)
  | _, done, warnings, '\\' :: 'c' :: _ => .ok ((.stop :: done).reverse, warnings.reverse)
  | fuel + 1, done, warnings, '\\' :: r =>
    let (c, rest) := if r.head? == some 'e' then ('\\', r) else Format.escape r
    let warnings := match c, r with
      | '\\', [] => "warning: escape \x60\\' followed by nothing at all" :: warnings
      | '\\', k :: _ =>
        if k == '\\' || Format.isOctal k then warnings
        else ("warning: unrecognized escape \x60\\" ++ k.toString ++ "'") :: warnings
      | _, _ => warnings
    directives fuel (.text [c] :: done) warnings rest
  | fuel + 1, done, warnings, '%' :: r =>
    let signs := r.takeWhile fun c => c == '-' || c == '0' || c == '+' || c == ' ' || c == '#'
    let r' := r.drop signs.length
    let width := r'.takeWhile Char.isDigit
    let r' := r'.drop width.length
    let (most, r') : Option Nat × Bytes := match r' with
      | '.' :: r' =>
        let ds := r'.takeWhile Char.isDigit
        (some (ofDigits ds), r'.drop ds.length)
      | r' => (none, r')
    let field : Field := ⟨signs.contains '-', signs.contains '0', ofDigits width, most⟩
    match r' with
    | [] => .error "error: % at end of format string"
    | '%' :: rest => directives fuel (.text ['%'] :: done) warnings rest
    | c :: rest =>
      if c == 'T' || c == 'A' || c == 'C' || c == 'B' then
        match rest with
        | [] => .error ("error: %" ++ c.toString ++ " at end of format string")
        | k :: rest => directives fuel (.time field k :: done) warnings rest
      else if factLetters.contains c then directives fuel (.fact field c :: done) warnings rest
      else if c == '\x7b' || c == '[' || c == '(' then
        .error ("error: the format directive \x60%" ++ c.toString ++
          "' is reserved for future use")
      else
        directives fuel (.text ['%', c] :: done)
          (("warning: unrecognized format directive \x60%" ++ c.toString ++ "'") :: warnings) rest
  | fuel + 1, done, warnings, c :: r => directives fuel (.text [c] :: done) warnings r

/-- A test or an action by its name. -/
private def primary (name : Bytes) : Reading Expression := do
  let bound (f : Bound → Nat → Expression) : Reading Expression := do
    let a ← argument name
    match bounded? a with
    | some (b, n) => return f b n
    | none =>
      throw ("invalid argument \x60" ++ String.ofList a ++ "' to \x60" ++ String.ofList name ++ "'")
  let depth (f : Nat → Settings → Settings) : Reading Expression := do
    let a ← argument name
    if !isDigits a then
      throw ("Expected a positive decimal integer argument to " ++ String.ofList name ++
        ", but got " ++ quote a)
    settle (f (ofDigits a))
    return .always
  let run (inside : Bool) : Reading Expression := do
    let r : Reader ← get
    let (words, isMany) ← commandWords name (r.rest.length + 1) []
    if isMany then
      let n := r.settings.gathers
      settle fun s => { s with gathers := n + 1 }
      act (.gather n words)
    else act (.execute words inside false)
  match String.ofList name with
  | "-true" | "-noleaf" | "-mount" | "-xdev" | "-warn" | "-nowarn" | "-daystart" | "-readable"
  | "-writable" | "-ignore_readdir_race" => return .always
  | "-false" => return .never
  | "-name" => return .name (globOf false (← argument name)) false
  | "-iname" => return .name (globOf true (← argument name)) true
  | "-path" | "-wholename" => return .path (globOf false (← argument name)) false
  | "-ipath" | "-iwholename" => return .path (globOf true (← argument name)) true
  | "-lname" => return .target (globOf false (← argument name)) false
  | "-ilname" => return .target (globOf true (← argument name)) true
  | "-regextype" =>
    let t ← argument name
    settle fun s => { s with extended := "posix-e".toList.isPrefixOf t || t == "egrep".toList }
    return .always
  | "-regex" | "-iregex" =>
    let t ← argument name
    let extended := (← get).settings.extended
    let d : Regex.Dialect := ⟨extended, name == "-iregex".toList, true, false⟩
    match Regex.compile d (if extended then t else withSigns t) with
    | .ok p => return .regex p
    | .error f => throw ("failed to compile regular expression '" ++ String.ofList t ++ "': " ++
        f.message)
  | "-type" | "-xtype" =>
    let a ← argument name
    let letters := (Bytes.split ',' a).flatten
    match letters.find? fun c => !"bcdpflsD".toList.contains c with
    | some c => throw ("Unknown argument to " ++ String.ofList name ++ ": " ++ c.toString)
    | none => return if name == "-type".toList then .kind letters else .otherKind letters
  | "-empty" => return .empty
  | "-size" => match sizeOf (← argument name) with
    | .ok e => return e
    | .error m => throw m
  | "-links" => bound .links
  | "-uid" | "-gid" => bound fun b n => if b == .less || n != 0 then .never else .always
  | "-inum" => bound fun _ _ => .never
  | "-user" | "-group" =>
    let a ← argument name
    let isUser := name == "-user".toList
    let id? : Option Nat :=
      if isDigits a then some (ofDigits a)
      else if isUser then (Account.byName? a).map (·.id)
      else Account.groups.lookup (String.ofList a)
    match id? with
    | some n => return if n == 0 then .always else .never
    | none =>
      throw (quote a ++ (if isUser then " is not the name of a known user"
        else " is not the name of an existing group"))
  | "-nouser" | "-nogroup" => return .never
  | "-newer" | "-anewer" | "-cnewer" | "-newermm" =>
    let a ← argument name
    let s := (← get).state
    match s.disk.reach s.here a.toText with
    | .ok l => return .newer (s.changed l)
    | .error f => throw (quote a ++ ": " ++ f.reason)
  | "-newermt" | "-newerct" | "-newerat" =>
    let a ← argument name
    let s := (← get).state
    match Calendar.parse? (firstMoment + s.clock / 1000) a with
    | some t => return .newer ((t - firstMoment) * 1000)
    | none =>
      throw ("I cannot figure out how to interpret " ++ quote a ++ " as a date or time")
  | "-mtime" | "-atime" | "-ctime" => bound fun b n => .age b n 86400000
  | "-mmin" | "-amin" | "-cmin" => bound fun b n => .age b n 60000
  | "-perm" =>
    let a ← argument name
    let (mark, t) : Option Char × Bytes := match a with
      | '-' :: t => (some '-', t)
      | '/' :: t => (some '/', t)
      | t => (none, t)
    match Mode.of? false 0 t 0 with
    | some mode => return .permissions mark mode
    | none => throw ("invalid mode " ++ quote a)
  | "-executable" => return .executable
  | "-samefile" =>
    let a ← argument name
    let s := (← get).state
    match s.disk.reach s.here a.toText with
    | .ok l => return .sameAs l
    | .error f => throw (quote a ++ ": " ++ f.reason)
  | "-maxdepth" => depth fun n s => { s with most := some n }
  | "-mindepth" => depth fun n s => { s with least := n }
  | "-depth" | "-d" =>
    settle fun s => { s with isDeep := true }
    return .always
  | "-follow" =>
    settle fun s => { s with follows := true }
    return .always
  | "-print" => act (.print '\n')
  | "-print0" => act (.print (Char.ofNat 0))
  | "-printf" =>
    let t ← argument name
    match directives (t.length + 1) [] [] t with
    | .error m => throw m
    | .ok (format, warnings) =>
      modify fun r => { r with
        state := warnings.foldl (fun s m => (s.grumble 0 m).finish s.status) r.state }
      act (.printf format)
  | "-fprint" => act (.printTo (← argument name))
  | "-ls" => act .describe
  | "-exec" => run false
  | "-execdir" => run true
  | "-ok" | "-okdir" =>
    let r : Reader ← get
    let (words, _) ← commandWords name (r.rest.length + 1) []
    act (.execute words (name == "-okdir".toList) true)
  | "-delete" =>
    settle fun s => { s with isDeep := true }
    act .delete
  | "-prune" => return .prune
  | "-quit" => return .quit
  | _ =>
    if name.head? == some '-' then throw ("unknown predicate \x60" ++ String.ofList name ++ "'")
    else throw ("paths must precede expression: \x60" ++ String.ofList name ++ "'")

private def peek : Reading (Option Bytes) := do return (← get).rest.head?

private def isOr (a : Bytes) : Bool := a == "-o".toList || a == "-or".toList

private def isAnd (a : Bytes) : Bool := a == "-a".toList || a == "-and".toList

mutual

private def list (fuel : Nat) : Reading Expression :=
  match fuel with
  | 0 => throw ""
  | fuel + 1 => do
    let a ← disjunction fuel
    match ← peek with
    | some [','] =>
      let _ ← take?
      if (← peek).isNone then throw "expected an expression after ','"
      return .list a (← list fuel)
    | _ => return a

private def disjunction (fuel : Nat) : Reading Expression :=
  match fuel with
  | 0 => throw ""
  | fuel + 1 => do
    let a ← conjunction fuel
    match ← peek with
    | some o =>
      if isOr o then
        let _ ← take?
        if (← peek).isNone then throw ("expected an expression after " ++ quote o)
        return .or a (← disjunction fuel)
      else return a
    | none => return a

private def conjunction (fuel : Nat) : Reading Expression :=
  match fuel with
  | 0 => throw ""
  | fuel + 1 => do
    let a ← factor fuel
    match ← peek with
    | none | some [','] | some [')'] => return a
    | some o =>
      if isOr o then return a
      else if isAnd o then
        let _ ← take?
        if (← peek).isNone then throw ("expected an expression after " ++ quote o)
        return .and a (← conjunction fuel)
      else return .and a (← conjunction fuel)

private def factor (fuel : Nat) : Reading Expression :=
  match fuel with
  | 0 => throw ""
  | fuel + 1 => do
    match ← take? with
    | none => throw ""
    | some ['('] =>
      match ← peek with
      | some [')'] => throw "invalid expression; empty parentheses are not allowed."
      | none =>
        throw "invalid expression; I was expecting to find a ')' somewhere but did not see one."
      | _ =>
        let e ← list fuel
        match ← take? with
        | some [')'] => return e
        | _ =>
          throw "invalid expression; I was expecting to find a ')' somewhere but did not see one."
    | some [')'] => throw "invalid expression; you have too many ')'"
    | some a =>
      if a == ['!'] || a == "-not".toList then
        if (← peek).isNone then throw ("expected an expression after " ++ quote a)
        return .not (← factor fuel)
      else if isOr a || isAnd a || a == [','] then
        throw ("invalid expression; you have used a binary operator " ++ quote a ++
          " with nothing before it.")
      else primary a

end

/-- Reads a whole expression. -/
private def expression : Reading Expression := do
  let n := (← get).rest.length
  if n = 0 then return .always
  let e ← list (8 * n + 8)
  match ← peek with
  | some [')'] => throw "you have too many ')'"
  | _ => return e

/-! ## Walking -/

/-- What is met on the way: its path, where the walk began, and how deep it is. -/
structure Visit where
  path : Bytes
  start : Bytes
  depth : Nat
  location : Location
  item : Disk.Item

structure Walk where
  state : State
  settings : Settings
  /-- The files for commands that take many, last first. -/
  gathered : List (Nat × List Bytes)
  isPruned : Bool
  isOver : Bool

/-- The name by which patterns know a path. -/
private def baseName (p : Bytes) : Bytes := lastName p

private def listedOf (v : Visit) : Listed := ⟨v.path, v.location, v.item⟩

private def holds (b : Bound) (n m : Int) : Bool :=
  match b with
  | .exactly => m == n
  | .less => m < n
  | .more => n < m

/-- The age in whole units. -/
private def ageOf (s : State) (l : Location) (unit : Nat) : Int :=
  ((s.clock : Int) + 1 - s.changed l) / unit

private def kindLetter : Disk.Item → Char
  | .file .. => 'f'
  | .directory => 'd'
  | .link _ => 'l'

/-- A fact on a file by its letter. -/
private def factOf (s : State) (v : Visit) (c : Char) : Bytes :=
  let e := listedOf v
  let number (n : Nat) : Bytes := (toString n).toList
  match c with
  | 'p' => v.path
  | 'f' => baseName v.path
  | 'h' => parentPath v.path
  | 'P' => (v.path.drop v.start.length).dropWhile (· == '/')
  | 'H' => v.start
  | 's' => number e.size
  | 'd' => number v.depth
  | 'm' => Nat.toDigits 8 (s.modeOf v.location)
  | 'M' => e.letters s
  | 'n' => number (e.names s)
  | 'u' => e.user s false
  | 'g' => e.group s false
  | 'U' => e.user s true
  | 'G' => e.group s true
  | 'k' => number e.blocks
  | 'b' => number (2 * e.blocks)
  | 'l' =>
    match v.item with
    | .link t => Bytes.ofText t
    | _ => []
  | 'y' | 'Y' => [kindLetter v.item]
  | 't' | 'a' | 'c' =>
    Calendar.format (firstMoment + s.changed v.location / 1000)
      "%a %b %e %H:%M:%S.0000000000 %Y".toList
  | _ => ['0']

/-- A part of the time of a file by its letter. -/
private def timeOf (s : State) (v : Visit) (c : Char) : Bytes :=
  let moment := firstMoment + s.changed v.location / 1000
  let fraction := ".0000000000".toList
  match c with
  | '@' => (toString moment).toList ++ fraction
  | '+' => Calendar.format moment "%Y-%m-%d+%H:%M:%S".toList ++ fraction
  | 'S' | 'T' | 's' => Calendar.format moment ['%', c] ++ (if c == 's' then [] else fraction)
  | c => Calendar.format moment ['%', c]

private def fit (f : Field) (t : Bytes) : Bytes :=
  let t := match f.most with
    | some n => t.take n
    | none => t
  if f.isLeft then padRight f.width t
  else if f.isZeroed && !t.isEmpty && t.all Char.isDigit then
    List.replicate (f.width - t.length) '0' ++ t
  else padLeft f.width t

/-- What a format gives for a file. -/
private def filled (s : State) (v : Visit) : List Directive → Bytes
  | [] | .stop :: _ => []
  | .text t :: r => t ++ filled s v r
  | .fact f c :: r => fit f (factOf s v c) ++ filled s v r
  | .time f c :: r => fit f (timeOf s v c) ++ filled s v r

/-- A word of a command with the path in place of braces. -/
private def put (path : Bytes) : Bytes → Bytes
  | '\x7b' :: '\x7d' :: r => path ++ put path r
  | c :: r => c :: put path r
  | [] => []

/-- Runs a command, and says whether it succeeded. -/
private def runCommand (launch : Launch) (s : State) (words : List Bytes) : State × Bool :=
  match obstacle? s (words.headD []) with
  | some f =>
    let status := s.status
    ((s.grumble 0 (quote (words.headD []) ++ ": " ++ f.reason)).finish status, false)
  | none =>
    let (after, e) := launch.run s words
    (after.finish s.status, e == .exited 0)

private def lastLocation (l : Location) : Location := l.dropLast

/-- Whether an expression holds for what is met, and what is done on the way. -/
private def check (launch : Launch) (v : Visit) (w : Walk) : Expression → Walk × Bool
  | .always => (w, true)
  | .never => (w, false)
  | .not e =>
    let (w, b) := check launch v w e
    (w, !b)
  | .and a b =>
    let (w, x) := check launch v w a
    if x && !w.isOver then check launch v w b else (w, false)
  | .or a b =>
    let (w, x) := check launch v w a
    if x || w.isOver then (w, true) else check launch v w b
  | .list a b =>
    let (w, _) := check launch v w a
    if w.isOver then (w, false) else check launch v w b
  | .name g folded => (w, Glob.covers g (fold folded (baseName v.path)))
  | .path g folded => (w, Glob.covers g (fold folded v.path))
  | .target g folded =>
    (w, match v.item with
      | .link t => Glob.covers g (fold folded (Bytes.ofText t))
      | _ => false)
  | .regex p =>
    (w, match (p.search v.path.toArray 0 false).bind (·.getD 0 none) with
      | some (a, z) => a == 0 && z == v.path.length
      | none => false)
  | .kind letters => (w, letters.contains (kindLetter v.item))
  | .otherKind letters =>
    let s := w.state
    let other := (s.disk.locate (!w.settings.follows) s.here v.path.toText).toOption.bind
      s.disk.get?
    (w, letters.contains (kindLetter (other.getD v.item)))
  | .empty =>
    (w, match v.item with
      | .file content _ => content.bytes.isEmpty
      | .directory => (w.state.disk.list v.location).isEmpty
      | .link _ => false)
  | .size b n unit => (w, holds b n (((listedOf v).size + unit - 1) / unit))
  | .links b n => (w, holds b n ((listedOf v).names w.state))
  | .newer time => (w, time < w.state.changed v.location)
  | .age b n unit =>
    let age := ageOf w.state v.location unit
    (w, holds b n (max age 0))
  | .permissions mark mode =>
    let bits := w.state.modeOf v.location
    (w, match mark with
      | none => bits == mode
      | some '-' => bits &&& mode == mode
      | some _ => mode == 0 || bits &&& mode != 0)
  | .executable =>
    (w, match v.item with
      | .directory => true
      | _ => w.state.modeOf v.location &&& 0o111 != 0)
  | .sameAs l => (w, w.state.isSame l v.location)
  | .print mark => ({ w with state := w.state.print (v.path ++ [mark]) }, true)
  | .printTo path =>
    match w.state.place path with
    | .ok l => ({ w with state := w.state.store l true (v.path ++ ['\n']) }, true)
    | .error _ => (w, true)
  | .printf format => ({ w with state := w.state.print (filled w.state v format) }, true)
  | .describe =>
    let e := listedOf v
    let line := "        0 ".toList ++ padLeft 6 (toString e.blocks).toList ++ [' '] ++
      e.letters w.state ++ padLeft 4 (toString (e.names w.state)).toList ++
      ' ' :: padRight 8 (e.user w.state false) ++ ' ' :: padRight 8 (e.group w.state false) ++
      ' ' :: padLeft 8 (toString e.size).toList ++
      Calendar.format (firstMoment + w.state.changed v.location / 1000) " %b %e %H:%M ".toList ++
      v.path ++ (match v.item with
        | .link t => " -> ".toList ++ Bytes.ofText t
        | _ => []) ++ ['\n']
    ({ w with state := w.state.print line }, true)
  | .execute words inside asks =>
    let path := if inside then '.' :: '/' :: baseName v.path else v.path
    let (s, agreed) : State × Bool := if asks then
        let question := "< ".toList ++ words.headD [] ++ " ... ".toList ++ v.path ++ " > ? ".toList
        let s := { w.state.write 2 question with lost := w.state.lost }
        let (s, line) := s.takeAll 0
        (s, line.head? == some 'y' || line.head? == some 'Y')
      else (w.state, true)
    if !agreed then ({ w with state := s }, false)
    else
      let here := s.here
      let hereTo := if inside then { s with here := lastLocation v.location } else s
      let (after, ok) := runCommand launch hereTo (words.map (put path))
      ({ w with state := { after with here } }, ok)
  | .gather n _ =>
    let paths := (w.gathered.lookup n).getD []
    let others := w.gathered.filter (·.1 != n)
    ({ w with gathered := (n, v.path :: paths) :: others }, true)
  | .delete =>
    if v.path == ['.'] then (w, true)
    else if v.item == .directory && !(w.state.disk.list v.location).isEmpty then
      let s := w.state.grumble 1 ("cannot delete " ++ quote v.path ++ ": Directory not empty")
      ({ w with state := s }, false)
    else ({ w with state := w.state.remove v.location }, true)
  | .prune => ({ w with isPruned := true }, true)
  | .quit => ({ w with isOver := true }, true)

/-- What a path leads to on the way. -/
private def visitOf (s : State) (follows : Bool) (start path : Bytes) (depth : Nat) :
    Except Disk.Fault Visit := do
  let l ← match s.disk.locate follows s.here path.toText with
    | .ok l => .ok l
    | .error f => if follows then s.disk.locate false s.here path.toText else .error f
  match s.disk.get? l with
  | some item => .ok ⟨path, start, depth, l, item⟩
  | none => .error .notFound

/-- Walks through what a path leads to. -/
private def walk (launch : Launch) (e : Expression) :
    Nat → Walk → Bytes → Bytes → Nat → Walk
  | 0, w, _, _, _ => w
  | fuel + 1, w, start, path, depth =>
    let follows := w.settings.follows || depth == 0 && w.settings.begins
    match visitOf w.state follows start path depth with
    | .error f => { w with state := w.state.grumble 1 (quote path ++ ": " ++ f.reason) }
    | .ok v =>
      let meets (w : Walk) : Walk :=
        if depth < w.settings.least || w.isOver then w else (check launch v w e).1
      let enters (w : Walk) : Walk :=
        let isOpen := v.item == .directory && !w.isOver && w.settings.most.all (depth < ·)
        if !isOpen then w
        else if !w.state.disk.isDirectory v.location then
          { w with state := w.state.grumble 1 (quote path ++ ": No such file or directory") }
        else
          let front := if path.getLast? == some '/' then path else path ++ ['/']
          (namesAt w.state.disk v.location).foldl (fun w n =>
            if w.isOver || w.state.halt.isSome then w
            else walk launch e fuel w start (front ++ n) (depth + 1)) w
      if w.settings.isDeep then
        let w := enters w
        { meets { w with isPruned := false } with isPruned := false }
      else
        let w := meets { w with isPruned := false }
        if w.isPruned then { w with isPruned := false } else enters w

/-- The commands of an expression that take many files. -/
private def gatherers : Expression → List (Nat × List Bytes)
  | .gather n words => [(n, words)]
  | .not e => gatherers e
  | .and a b | .or a b | .list a b => gatherers a ++ gatherers b
  | _ => []

/-- How deep a walk may go. -/
private def maxDepth : Nat := 4096

end Find

open Find in
def find (launch : Launch) (s : State) (args : List Bytes) : State :=
  let isOption (a : Bytes) : Bool := a == "-L".toList || a == "-P".toList || a == "-H".toList
  let options := args.takeWhile isOption
  let rest := args.drop options.length
  let starts (a : Bytes) : Bool :=
    a.head? == some '-' && a.length > 1 || a == ['('] || a == ['!'] || a == [')']
  let paths := rest.takeWhile (!starts ·)
  let words := rest.drop paths.length
  let last := options.getLast?
  let settings : Settings := ⟨0, none, false, last == some "-L".toList,
    last == some "-H".toList, false, false, 0⟩
  match expression.run ⟨words, settings, s⟩ with
  | .error message => s.grumble 1 message
  | .ok (e, r) =>
    let whole := if r.settings.acts then e else .and e (.print '\n')
    let files : State := (filesOf whole).foldl (fun s p =>
      match s.place p with
      | .ok l => s.store l false []
      | .error _ => s) r.state
    let w := (if paths.isEmpty then [['.']] else paths).foldl (fun (w : Walk) p =>
      if w.isOver then w else walk launch whole maxDepth w p p 0)
      ⟨files, r.settings, [], false, false⟩
    (gatherers whole).foldl (fun s (n, command) =>
      match w.gathered.lookup n with
      | none | some [] => s
      | some ps =>
        let (after, ok) := runCommand launch s (command ++ ps.reverse)
        if ok then after else after.finish 1) w.state
where
  /-- The files that paths are printed to. -/
  filesOf : Find.Expression → List Bytes
    | .printTo p => [p]
    | .not e => filesOf e
    | .and a b | .or a b | .list a b => filesOf a ++ filesOf b
    | _ => []

end Graft.Shell.Tool
