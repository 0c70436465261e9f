import Graft.Shell.Arithmetic
import Graft.Shell.Glob
import Graft.Shell.Script

/-!
# Processes

A process has arguments and variables, stands in a directory of the disk, and reads and writes
through numbered descriptors. A descriptor leads to something that was opened, which several
descriptors and processes may share.
-/
namespace Graft.Shell

/-- How a process ended. -/
inductive Ending where
  | exited (status : Nat)
  | killed (signal : Nat)
  deriving DecidableEq, Repr

/-- The status under which a shell knows an ending. -/
def Ending.status : Ending → Nat
  | exited n => n
  | killed n => 128 + n

/-- What a process leaves behind on its streams. -/
structure Outcome where
  ending : Ending
  output : Bytes
  errors : Bytes
  deriving DecidableEq, Repr

/-! ## What can be opened -/

/-- Where bytes come from and go to. -/
inductive Source where
  /-- A file, with what it held when it was opened, and what was left to be read of it when it had
  been changed last at a time. -/
  | file (l : Location) (first : Bytes) (ahead : Option (Nat × Bytes))
  /-- What is still to be read, what was written later, last first, and how much more may be written
  before the writer is stopped. A pipe that is `cut` lacks what its writer would have written. -/
  | pipe (front : Bytes) (back : List Bytes) (room : Nat) (cut : Bool)
  | directory
  | null
  /-- Nothing can be written here. -/
  | full

structure Opened where
  source : Source
  offset : Nat
  append : Bool
  readable : Bool
  writable : Bool

/-- Files that are not on the disk. -/
inductive Device where
  | null
  | full
  | input
  | output
  | errors
  /-- It can be read without an end. -/
  | zeros
  deriving DecidableEq, Repr

def device? (path : Bytes) : Option Device :=
  match String.ofList path with
  | "/dev/null" => some .null
  | "/dev/full" => some .full
  | "/dev/zero" | "/dev/urandom" | "/dev/random" => some .zeros
  | "/dev/stdin" | "/dev/fd/0" | "/proc/self/fd/0" => some .input
  | "/dev/stdout" | "/dev/fd/1" | "/proc/self/fd/1" => some .output
  | "/dev/stderr" | "/dev/fd/2" | "/proc/self/fd/2" => some .errors
  | _ => none

/-- As many zeros as programs read that read without an end. -/
def manyZeros : Bytes := List.replicate (Nat.pow 2 20) (Char.ofNat 0)

/-! ## Processes -/

/-- Why the commands that follow are not run. -/
inductive Halt where
  | ended (e : Ending)
  /-- That many loops are left. -/
  | leave (loops : Nat)
  /-- The next round of the outermost of that many loops begins. -/
  | again (loops : Nat)
  /-- The function is left. -/
  | back
  /-- An error ends the shell, unless the command that failed was run with care. -/
  | failed
  deriving DecidableEq, Repr

/-- Which shell a script is for. They differ in what `echo` prints and in how they complain. -/
inductive Flavor where
  | plain
  | bash
  deriving DecidableEq, Repr

/-- A variable. One that is `fixed` cannot be changed; one that is `exported` is known to the
programs that are run. -/
structure Variable where
  value : Option Bytes
  exported : Bool
  fixed : Bool
  deriving DecidableEq, Repr

abbrev Variables := List (Bytes × Variable)

/-- What a new process gets a copy of. -/
structure Process where
  here : Location
  /-- The directory by the path that led to it. -/
  herePath : Bytes
  flavor : Flavor
  /-- The name under which the running program was called. -/
  called : Bytes
  /-- The command of the shell that runs, which complaints name. -/
  command : Bytes
  /-- The name the script goes by, and its arguments. -/
  name : Bytes
  arguments : List Bytes
  bindings : Variables
  functions : List (Bytes × Command)
  aliases : List (Bytes × Bytes)
  descriptors : List (Nat × Nat)
  /-- The letters of the options that are set. -/
  options : List Char
  mask : Nat
  status : Nat
  /-- The status of the last command whose output was put into the command that runs. -/
  substituted : Nat
  /-- The line of the command that runs. -/
  line : Nat
  /-- The commands that run are a condition. -/
  tested : Bool
  /-- How many loops there are around the command that runs. -/
  loops : Nat
  /-- How many functions there are around the command that runs. -/
  depth : Nat
  /-- The variables that get their values back when the function ends; none outside functions. -/
  locals : Option (List (Bytes × Option Variable))
  /-- What is done on a signal; number 0 is the end of the script. -/
  traps : List (Nat × Bytes)
  /-- The argument that is looked at next for options, and the place in the one before it if that
  holds several. -/
  optionIndex : Nat
  optionOffset : Option Nat
  /-- The programs that were found on the search path before. -/
  hashed : List Bytes
  /-- The number of the process, and that of the shell that it is a part of. -/
  self : Nat
  shell : Nat
  /-- The time at which the process is ended. -/
  deadline : Option Nat

/-- A chain in the background. It runs when it is waited for; then it has an ending. -/
structure Job where
  number : Nat
  owner : Nat
  /-- The place among the jobs of its shell, from 1 on. -/
  slot : Nat
  /-- The time when it was started. -/
  start : Nat
  body : Chain
  process : Process
  ending : Option Ending
  /-- The shell knows of the ending. -/
  isSeen : Bool
  /-- The shell has waited for it. -/
  isAwaited : Bool
  /-- It does not run now, because another one does. -/
  isHeld : Bool

namespace Job

/-- The place can be given to another one. -/
def isOver (j : Job) : Bool := j.ending.isSome && j.isSeen && j.isAwaited

def isOf (j : Job) (shell : Nat) : Bool := j.owner == shell

/-- The shell gets to know of the ending, if there is one. -/
def notice (j : Job) : Job := if j.ending.isSome then { j with isSeen := true } else j

end Job

/-- A file that is written bit by bit: its size, and what is not yet on the disk, last first. -/
structure Tail where
  location : Location
  size : Nat
  chunks : List Bytes

structure State extends Process where
  /-- The disk without the tail. -/
  kept : Disk
  tail : Option Tail
  opened : Array Opened
  jobs : List Job
  /-- The number of the process started last. -/
  lastProcess : Nat
  /-- The number of the last job in the background. -/
  lastJob : Option Nat
  /-- Why something could not be written. -/
  lost : Option String
  /-- More was asked for than a cut pipe held. -/
  starved : Bool
  /-- Signals that shells have still to act on, with the numbers of the shells. -/
  pending : List (Nat × Nat)
  /-- The time in milliseconds. -/
  clock : Nat
  /-- How many changes there were when files were last changed, and at which time that was. What was
  there before is of time 0. -/
  stamps : List (Location × Nat × Int)
  changes : Nat
  /-- The permissions of files and directories, where they are not the usual ones. -/
  modes : List (Location × Nat)
  /-- The users and groups that files and directories belong to, where they are not the usual ones.
  -/
  owners : List (Location × Nat × Nat)
  /-- The locations of files that have several names, file by file. -/
  twins : List (List Location)
  halt : Option Halt

namespace State

def finish (s : State) (status : Nat) : State := { s with status }

/-- Ends the process. -/
def exit (s : State) (status : Nat) : State :=
  { s with status, halt := some (.ended (.exited status)) }

/-! ## The disk -/

/-- Writes a file, whatever stood there. -/
def putBytes (d : Disk) (l : Location) (b : Bytes) : Disk :=
  let executable := match d.get? l with
    | some (.file _ x) => x
    | _ => false
  d.set l (.file (.ofBytes b) executable)

def bytesAt (d : Disk) (l : Location) : Option Bytes :=
  match d.get? l with
  | some (.file content _) => some content.bytes
  | _ => none

/-- The other locations of a file. -/
def twinsOf (s : State) (l : Location) : List Location :=
  ((s.twins.find? (·.contains l)).getD []).filter (· != l)

/-- Whether two locations are those of one file. -/
def isSame (s : State) (l m : Location) : Bool := l == m || (s.twinsOf l).contains m

/-- Writes a file under all its names. -/
def putShared (s : State) (d : Disk) (l : Location) (b : Bytes) : Disk :=
  (s.twinsOf l).foldl (fun d m => putBytes d m b) (putBytes d l b)

/-- The disk with all that was written. -/
def disk (s : State) : Disk :=
  match s.tail with
  | none => s.kept
  | some t =>
    if t.chunks.isEmpty then s.kept
    else
      s.putShared s.kept t.location
        ((bytesAt s.kept t.location).getD [] ++ t.chunks.reverse.flatten)

def setDisk (s : State) (d : Disk) : State := { s with kept := d, tail := none }

/-- What the file at a path holds. -/
def load (s : State) (path : Bytes) : Except Disk.Fault Bytes := do
  let d := s.disk
  let l ← d.reach s.here path.toText
  match d.get? l with
  | some (.file content _) => .ok content.bytes
  | some .directory => .error .isDirectory
  | _ => .error .notFound

/-- Where a file that is written at a path is or comes to be. -/
def place (s : State) (path : Bytes) : Except Disk.Fault Location :=
  if path.isEmpty then .error .notFound
  else
    let d := s.disk
    match d.reach s.here path.toText with
    | .ok l => if d.isDirectory l then .error .isDirectory else .ok l
    | .error .notFound =>
      if path.getLast? == some '/' then .error .isDirectory
      else d.writable Disk.maxLinks (Location.ofPath s.here (.parse path.toText))
    | .error f => .error f

/-- Notes that a file changes, and the time that it gets. -/
def stampAs (s : State) (l : Location) (time : Int) : State :=
  { s with
    changes := s.changes + 1
    stamps := (l :: s.twinsOf l).map (·, s.changes + 1, time) ++
      s.stamps.filter fun e => !s.isSame l e.1 }

/-- Notes that a file changes now. -/
def stamp (s : State) (l : Location) : State := s.stampAs l (s.clock + 1)

/-- The number of the last change of a file. -/
def version (s : State) (l : Location) : Nat := ((s.stamps.lookup l).map (·.1)).getD 0

/-- The time of the last change of a file. -/
def changed (s : State) (l : Location) : Int := ((s.stamps.lookup l).map (·.2)).getD 0

/-- The permissions of what stands at a location. -/
def modeOf (s : State) (l : Location) : Nat :=
  match s.modes.lookup l, s.disk.get? l with
  | some m, _ => m
  | none, some (.file _ false) => 0o644
  | none, some (.link _) => 0o777
  | none, _ => 0o755

/-- Sets the permissions of a file or directory. -/
def setMode (s : State) (l : Location) (mode : Nat) : State :=
  (l :: s.twinsOf l).foldl (fun s l =>
    let d := s.disk
    let s := match d.get? l with
      | some (.file content _) => s.setDisk (d.set l (.file content (mode &&& 0o111 != 0)))
      | _ => s
    { s with modes := (l, mode) :: s.modes.filter (·.1 != l) }) s

/-- The user and the group that something belongs to. -/
def ownerOf (s : State) (l : Location) : Nat × Nat := (s.owners.lookup l).getD (0, 0)

def setOwner (s : State) (l : Location) (owner : Nat × Nat) : State :=
  let others := s.owners.filter fun e => !s.isSame l e.1
  { s with owners := (l :: s.twinsOf l).map (·, owner) ++ others }

/-- Gives what was made at a location the permissions that the mask leaves. -/
def masked (s : State) (l : Location) (mode : Nat) : State :=
  if s.mask == 0o022 then { s with modes := s.modes.filter (·.1 != l) }
  else { s with modes := (l, mode - (mode &&& s.mask)) :: s.modes.filter (·.1 != l) }

/-- Writes a file, in place of what it held or behind it. -/
def store (s : State) (l : Location) (behind : Bool) (b : Bytes) : State :=
  let d := s.disk
  let isNew := (d.get? l).isNone
  let old := if behind then (bytesAt d l).getD [] else []
  let s := (s.setDisk (s.putShared d l (old ++ b))).stamp l
  if isNew then s.masked l 0o666 else s

/-- Puts bytes into others from an offset on; a gap is filled with zeros. -/
def overwrite (old : Bytes) (offset : Nat) (b : Bytes) : Bytes :=
  old.take offset ++ List.replicate (offset - old.length) (Char.ofNat 0) ++ b ++
    old.drop (offset + b.length)

/-- Writes to an open file. -/
def writeFile (s : State) (index : Nat) (o : Opened) (l : Location) (b : Bytes) : State :=
  let s := s.stamp l
  let isTail := s.tail.any (·.location == l)
  let s := if isTail then s else s.setDisk s.disk
  let tail := match isTail, s.tail with
    | true, some t => t
    | _, _ => ⟨l, ((bytesAt s.kept l).getD []).length, []⟩
  let offset := if o.append then tail.size else o.offset
  let count := b.length
  let opened := s.opened.setIfInBounds index { o with offset := offset + count }
  if offset = tail.size then
    let tail := { tail with size := tail.size + count, chunks := b :: tail.chunks }
    { s with opened, tail := some tail }
  else
    let d := s.disk
    { s with opened }.setDisk (s.putShared d l (overwrite ((bytesAt d l).getD []) offset b))

/-! ## Names of files -/

/-- Where an open file is kept once its last name is gone. No path leads there. -/
private def hidden (n : Nat) : Location := [[Char.ofNat 0], (toString n).toList]

/-- Whether a location is one that paths lead to. -/
def isReached (l : Location) : Bool := l.head? != some [Char.ofNat 0]

/-- The locations of open files. -/
private def openLocations (s : State) : List Location :=
  (s.opened.toList.filterMap fun o =>
    match o.source with
    | .file l _ _ => some l
    | _ => none).eraseDups

/-- Open files change their locations. -/
private def reopen (s : State) (f : Location → Location) : Array Opened :=
  s.opened.map fun o =>
    match o.source with
    | .file l first ahead => { o with source := .file (f l) first ahead }
    | _ => o

/-- Open files that lose their names at a location and beneath it go on under another name, or
hidden. -/
private def release (s : State) (l : Location) : State :=
  (s.openLocations.filter (·.isWithin l)).foldl (fun s k =>
    let others := (s.twinsOf k).filter fun t => !t.isWithin l
    let m := others.headD (hidden s.changes)
    let d := s.disk
    let s := match others, d.get? k with
      | [], some item => { s.setDisk (d.set m item) with changes := s.changes + 1 }
      | _, _ => s
    { s with opened := s.reopen fun t => if t == k then m else t }) s

/-- Removes what stands at a location and beneath it. -/
def remove (s : State) (l : Location) : State :=
  let s := s.release l
  let s := s.setDisk (s.disk.erase l)
  let isLeft (k : Location) : Bool := !k.isWithin l
  { s with
    stamps := s.stamps.filter (isLeft ·.1)
    modes := s.modes.filter (isLeft ·.1)
    owners := s.owners.filter (isLeft ·.1)
    twins := (s.twins.map (·.filter isLeft)).filter (1 < ·.length) }

/-- Moves what stands at a location, in place of what stands at another. -/
def rename (s : State) (l m : Location) : State :=
  let s := s.remove m
  let d := s.disk
  let moved (k : Location) : Location := if k.isWithin l then m ++ k.drop l.length else k
  let there := (d.entries.filter (·.1.isWithin l)).map fun e => (moved e.1, e.2)
  let s := s.setDisk ⟨(d.erase l).entries ++ there⟩
  { s with
    opened := s.reopen moved
    stamps := s.stamps.map fun e => (moved e.1, e.2)
    modes := s.modes.map fun e => (moved e.1, e.2)
    owners := s.owners.map fun e => (moved e.1, e.2)
    twins := s.twins.map (·.map moved) }

/-- Gives what stands at a location another name, in place of what has that name. -/
def join (s : State) (l m : Location) : State :=
  if l == m then s
  else
    let s := s.remove m
    match s.disk.get? l with
    | none => s
    | some item =>
      let group := l :: s.twinsOf l
      { s.setDisk (s.disk.set m item) with
        stamps := ((s.stamps.lookup l).map (m, ·)).toList ++ s.stamps
        modes := ((s.modes.lookup l).map (m, ·)).toList ++ s.modes
        owners := ((s.owners.lookup l).map (m, ·)).toList ++ s.owners
        twins := (group ++ [m]) :: s.twins.filter (!·.contains l) }

/-! ## Descriptors -/

/-- Opens something. -/
def openSource (s : State) (o : Opened) : State × Nat :=
  ({ s with opened := s.opened.push o }, s.opened.size)

/-- A pipe with the given content that takes so much more. -/
def openPipe (s : State) (content : Bytes) (room : Nat) : State × Nat :=
  s.openSource ⟨.pipe content [] room false, 0, false, true, true⟩

/-- How much may be written where nothing stops the writer. -/
def unlimited : Nat := Nat.pow 2 62

def setDescriptor (s : State) (descriptor index : Nat) : State :=
  { s with descriptors := (descriptor, index) :: s.descriptors.filter (·.1 != descriptor) }

def closeDescriptor (s : State) (descriptor : Nat) : State :=
  { s with descriptors := s.descriptors.filter (·.1 != descriptor) }

def opened? (s : State) (descriptor : Nat) : Option (Nat × Opened) := do
  let i ← s.descriptors.lookup descriptor
  return (i, ← s.opened[i]?)

/-- What a pipe still holds. -/
def held (s : State) (index : Nat) : Bytes :=
  match s.opened[index]? with
  | some ⟨.pipe front back _ _, _, _, _, _⟩ =>
    if back.isEmpty then front else front ++ back.reverse.flatten
  | _ => []

/-- Writes to a descriptor. A writer to a full pipe is stopped by a signal. -/
def write (s : State) (descriptor : Nat) (b : Bytes) : State :=
  if b.isEmpty || s.halt == some (.ended (.killed 13)) then s
  else
    let bad : State := { s with lost := some "Bad file descriptor" }
    match s.opened? descriptor with
    | none => bad
    | some (i, o) =>
      if !o.writable then bad
      else
        match o.source with
        | .null => s
        | .full => { s with lost := some "No space left on device" }
        | .directory => bad
        | .file l _ _ => s.writeFile i o l b
        | .pipe front back room cut =>
          let count := b.length
          if cut || room < count then
            let source := Source.pipe front (b.take room :: back) 0 true
            { s with
              opened := s.opened.setIfInBounds i { o with source }
              halt := some (.ended (.killed 13)) }
          else
            let source := Source.pipe front (b :: back) (room - count) cut
            { s with opened := s.opened.setIfInBounds i { o with source } }

def print (s : State) (b : Bytes) : State := s.write 1 b

/-- What is left to be read of an open file. -/
private def left (s : State) (o : Opened) (l : Location) (first : Bytes)
    (ahead : Option (Nat × Bytes)) : Bytes :=
  match ahead.filter (·.1 == s.version l) with
  | some (_, b) => b
  | none => ((bytesAt s.disk l).getD first).drop o.offset

/-- What can be read from a descriptor, and whether more would come. -/
def readable (s : State) (descriptor : Nat) : Except String (Bytes × Bool) :=
  match s.opened? descriptor with
  | none => .error "Bad file descriptor"
  | some (i, o) =>
    if !o.readable then .error "Bad file descriptor"
    else
      match o.source with
      | .null | .full => .ok ([], false)
      | .directory => .error "Is a directory"
      | .file l first ahead => .ok (left s o l first ahead, false)
      | .pipe _ _ _ cut => .ok (s.held i, cut)

/-- Takes a number of bytes that were read. -/
def advance (s : State) (descriptor count : Nat) : State :=
  match s.opened? descriptor with
  | none => s
  | some (i, o) =>
    match o.source with
    | .pipe _ _ room cut =>
      let source := Source.pipe ((s.held i).drop count) [] room cut
      { s with opened := s.opened.setIfInBounds i { o with source } }
    | .file l first ahead =>
      let rest := (left s o l first ahead).drop count
      let source := Source.file l first (some (s.version l, rest))
      { s with opened := s.opened.setIfInBounds i { o with source, offset := o.offset + count } }
    | _ => s

/-- Whether a descriptor leads to a file, in which one can go back. -/
def isSeekable (s : State) (descriptor : Nat) : Bool :=
  match s.opened? descriptor with
  | some (_, ⟨.file .., _, _, _, _⟩) => true
  | _ => false

/-- Takes all there is to be read. -/
def takeAll (s : State) (descriptor : Nat) : State × Bytes :=
  match s.readable descriptor with
  | .ok (b, cut) => ({ s.advance descriptor b.length with starved := s.starved || cut }, b)
  | .error _ => (s, [])

/-- All there is to be read as input. -/
def input (s : State) : Bytes := ((s.readable 0).toOption.map (·.1)).getD []

/-! ## Complaints -/

/-- Prints a complaint of a program and fails. -/
def complain (s : State) (status : Nat) (message : Bytes) : State :=
  { s.write 2 (message ++ ['\n']) with status, lost := s.lost }

/-- Prints a complaint of a program after the name it was called by, and fails. -/
def grumble (s : State) (status : Nat) (message : String) : State :=
  s.complain status (s.called ++ ": ".toList ++ message.toList)

/-- Prints a complaint of the shell and fails. -/
def report (s : State) (status : Nat) (message : Bytes) : State :=
  let place := match s.flavor with
    | .plain => ": " ++ toString s.line ++ ": "
    | .bash => ": line " ++ toString s.line ++ ": "
  let command := if s.command.isEmpty then [] else s.command ++ ": ".toList
  s.complain status (s.name ++ place.toList ++ command ++ message)

/-- Prints a complaint and ends the shell. -/
def abort (s : State) (message : Bytes) : State :=
  { s.report 2 message with halt := some .failed }

/-! ## Variables -/

def binding? (s : State) (name : Bytes) : Option Variable := s.bindings.lookup name

def putVariable (s : State) (name : Bytes) (v : Variable) : State :=
  if s.bindings.any (·.1 == name) then
    { s with bindings := s.bindings.map fun b => if b.1 == name then (name, v) else b }
  else { s with bindings := (name, v) :: s.bindings }

/-- The argument that a value names, counted from 1. -/
private def optionNumber (value : Bytes) : Option Nat :=
  (Arithmetic.integer? value).bind fun n => if 0 < n then some n.toNat else none

/-- Gives a variable a value, if it may be changed. -/
def tryAssign (s : State) (name value : Bytes) : Option State :=
  let old := (s.binding? name).getD ⟨none, s.options.contains 'a', false⟩
  if old.fixed then none
  else
    let s := s.putVariable name { old with value := some value }
    some (if name == "OPTIND".toList then
        { s with optionIndex := (optionNumber value).getD 1, optionOffset := none }
      else if name == "PATH".toList then { s with hashed := [] }
      else s)

/-- Gives a variable a value. One that is fixed ends the shell. -/
def setVariable (s : State) (name value : Bytes) : State :=
  match s.tryAssign name value with
  | some s => s
  | none => s.abort (name ++ ": is read only".toList)

/-- Removes a variable or puts it back. -/
def restore (s : State) (name : Bytes) (old : Option Variable) : State :=
  match old with
  | some v => s.putVariable name v
  | none => { s with bindings := s.bindings.filter (·.1 != name) }

/-- The number under which a script goes. -/
def firstProcess : Nat := 4096

/-- The text of a number. -/
def number (n : Nat) : Bytes := (toString n).toList

def textOf (s : State) (name : String) : Option Bytes :=
  (s.binding? name.toList).bind (·.value)

/-- The characters that divide fields. -/
def separators (s : State) : Bytes := (s.textOf "IFS").getD [' ', '\t', '\n']

/-- The options with their letters, in the order in which they are listed. -/
def optionLetters : List (Char × String) :=
  [('e', "errexit"), ('f', "noglob"), ('I', "ignoreeof"), ('i', "interactive"), ('m', "monitor"),
    ('n', "noexec"), ('s', "stdin"), ('x', "xtrace"), ('v', "verbose"), ('V', "vi"),
    ('E', "emacs"), ('C', "noclobber"), ('a', "allexport"), ('b', "notify"), ('u', "nounset"),
    ('p', "privileged")]

def has (s : State) (option : Char) : Bool := s.options.contains option

def setOption (s : State) (option : Char) (on : Bool) : State :=
  let others := s.options.filter (· != option)
  { s with options := if on then option :: others else others }

/-- The value of a variable, of an argument or of a special name. The arguments together are not a
value of their own here. -/
def value? (s : State) (name : Bytes) : Option Bytes :=
  match name with
  | ['?'] => some (number s.status)
  | ['#'] => some (number s.arguments.length)
  | ['$'] => some (number s.shell)
  | ['!'] => s.lastJob.map number
  | ['-'] => some ((optionLetters.map (·.1)).filter s.has).reverse
  | ['0'] => some s.name
  | c :: _ =>
    if c.isDigit then
      match (String.ofList name).toNat? with
      | some (n + 1) => s.arguments[n]?
      | _ => some s.name
    else (s.binding? name).bind (·.value)
  | [] => none

/-- Variables as arithmetic sees them. -/
def memory : Arithmetic.Memory State where
  get s name := (s.value? name).getD []
  set s name value :=
    match s.tryAssign name value with
    | some s => .ok s
    | none => .error (.readOnly name)

end State
end Graft.Shell
