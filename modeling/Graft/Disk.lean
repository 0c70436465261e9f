import Graft.Path

/-!
# Disks

A disk is a tree of directories, files and symbolic links, kept as the list of its locations. The
root is always there. Paths are followed name by name and through links, as a file system does.
-/
namespace Graft

/-- What a file holds: a text, or bytes that are no text. -/
inductive Disk.Content where
  | text (t : Text)
  | raw (bytes : List UInt8)
  deriving DecidableEq, Repr

/-- What stands at a location. -/
inductive Disk.Item where
  | file (content : Disk.Content) (executable : Bool)
  | directory
  | link (target : Text)
  deriving DecidableEq, Repr

structure Disk where
  entries : List (Location × Disk.Item)
  deriving DecidableEq, Repr

namespace Disk

/-- Why the file system refuses something. -/
inductive Fault where
  | notFound
  | permissionDenied
  | badFormat
  | alreadyExists
  | notDirectory
  | isDirectory
  | nameTooLong
  | tooManyLinks
  | nulInName
  | nulInArgument
  | notText
  deriving DecidableEq, Repr

/-- What the fault means. -/
def Fault.reason : Fault → String
  | notFound => "No such file or directory"
  | permissionDenied => "Permission denied"
  | badFormat => "Exec format error"
  | alreadyExists => "File exists"
  | notDirectory => "Not a directory"
  | isDirectory => "Is a directory"
  | nameTooLong => "File name too long"
  | tooManyLinks => "Too many levels of symbolic links"
  | nulInName => "file name contained an unexpected NUL byte"
  | nulInArgument => "nul byte found in provided data"
  | notText => "stream did not contain valid UTF-8"

/-- The number under which the file system reports the fault. -/
def Fault.number? : Fault → Option Nat
  | notFound => some 2
  | permissionDenied => some 13
  | badFormat => some 8
  | alreadyExists => some 17
  | notDirectory => some 20
  | isDirectory => some 21
  | nameTooLong => some 36
  | tooManyLinks => some 40
  | nulInName | nulInArgument | notText => none

def Fault.message (f : Fault) : String :=
  match f.number? with
  | some n => s!"{f.reason} (os error {n})"
  | none => f.reason

/-- What stands at a location. -/
def get? (d : Disk) (l : Location) : Option Item :=
  if l = [] then some .directory else d.entries.lookup l

/-- Puts an item at a location, in place of what was there. -/
def set (d : Disk) (l : Location) (item : Item) : Disk :=
  if d.entries.any (·.1 == l) then
    ⟨d.entries.map fun e => if e.1 == l then (l, item) else e⟩
  else ⟨d.entries ++ [(l, item)]⟩

/-- Removes a location and all beneath it. -/
def erase (d : Disk) (l : Location) : Disk :=
  ⟨d.entries.filter fun e => !e.1.isWithin l⟩

def isDirectory (d : Disk) (l : Location) : Bool := d.get? l == some .directory

/-! ## Following paths -/

/-- The longest name a directory can hold, in bytes. -/
def maxName : Nat := 255

/-- Paths by which files are opened are shorter than this, in bytes. -/
def maxPath : Nat := 4096

/-- How many links may be followed on the way. -/
def maxLinks : Nat := 40

/-- Follows pieces from `here` with at most `links` links on the way; a link at the very end is
followed only if `last` says so. -/
def walk (d : Disk) (last : Bool) (links : Nat) (here : Location) (pieces : List Path.Piece) :
    Except Fault Location :=
  match pieces with
  | [] => .ok here
  | p :: rest =>
    if !d.isDirectory here then .error .notDirectory
    else
      match p with
      | .here => walk d last links here rest
      | .up => walk d last links here.dropLast rest
      | .name n =>
        if Text.size n > maxName then .error .nameTooLong
        else
          match d.get? (here ++ [n]) with
          | none => .error .notFound
          | some (.link target) =>
            if rest.isEmpty && !last then .ok (here ++ [n])
            else
              match links with
              | 0 => .error .tooManyLinks
              | links + 1 =>
                let path := Path.parse target
                walk d last links (if path.absolute then [] else here) (path.pieces ++ rest)
          | some _ => walk d last links (here ++ [n]) rest
termination_by (links, pieces.length)

/-- Follows a path from the directory `base`. -/
def locate (d : Disk) (last : Bool) (base : Location) (t : Text) : Except Fault Location :=
  if t.contains '\x00' then .error .nulInName
  else if t.isEmpty then .error .notFound
  else
    let path := Path.parse t
    d.walk last maxLinks (if path.absolute then [] else base) path.pieces

/-- The location of what a path leads to, all links followed. -/
def canonicalize (d : Disk) (base : Location) (t : Text) : Except Fault Location :=
  d.locate true base t

/-- The location of what is opened by a path. -/
def reach (d : Disk) (base : Location) (t : Text) : Except Fault Location :=
  if Text.size t ≥ maxPath && !t.contains '\x00' then .error .nameTooLong
  else d.canonicalize base t

/-- The text of the file a path leads to. -/
def readText (d : Disk) (base : Location) (t : Text) : Except Fault Text := do
  let l ← d.reach base t
  match d.get? l with
  | some (.file (.text content) _) => .ok content
  | some (.file (.raw _) _) => .error .notText
  | some .directory => .error .isDirectory
  | _ => .error .notFound

/-- Whether a path leads to a file. -/
def isFile (d : Disk) (base : Location) (t : Text) : Bool :=
  match d.reach base t with
  | .ok l => match d.get? l with
    | some (.file ..) => true
    | _ => false
  | .error _ => false

/-- Whether a path leads to a directory. -/
def leadsToDirectory (d : Disk) (base : Location) (t : Text) : Bool :=
  match d.reach base t with
  | .ok l => d.isDirectory l
  | .error _ => false

/-- The names in a directory with what they stand for. -/
def list (d : Disk) (l : Location) : List (Text × Item) :=
  d.entries.filterMap fun (m, item) =>
    if m.dropLast == l then m.getLast?.map (·, item) else none

/-- Puts a new file in place of a file or a link. A directory stays. -/
def replaceFile (d : Disk) (l : Location) (content : Text) : Except Fault Disk :=
  if d.isDirectory l then .error .isDirectory
  else .ok (d.set l (.file (.text content) false))

/-! ## Changes from outside -/

/-- Makes the directories that are missing along the given names from `here` on. -/
def makeDirectoriesFrom (d : Disk) (here : Location) : Location → Except Fault Disk
  | [] => .ok d
  | n :: rest =>
    match d.get? (here ++ [n]) with
    | none => (d.set (here ++ [n]) .directory).makeDirectoriesFrom (here ++ [n]) rest
    | some .directory => d.makeDirectoriesFrom (here ++ [n]) rest
    | some (.file ..) => .error (if rest.isEmpty then .alreadyExists else .notDirectory)
    | some (.link _) =>
      match d.walk true maxLinks here [.name n] with
      | .ok real =>
        if d.isDirectory real then d.makeDirectoriesFrom real rest
        else .error (if rest.isEmpty then .alreadyExists else .notDirectory)
      | .error .notFound => .error .alreadyExists
      | .error f => .error f

/-- Makes the directories along a path that are missing. -/
def makeDirectories (d : Disk) (l : Location) : Except Fault Disk := d.makeDirectoriesFrom [] l

/-- Where a file that is opened for writing at a path is or comes to be. -/
def writable (d : Disk) (links : Nat) (l : Location) : Except Fault Location :=
  match d.locate true [] (Location.display l) with
  | .ok real => if d.isDirectory real then .error .isDirectory else .ok real
  | .error .notFound =>
    match d.locate true [] (Location.display l.dropLast) with
    | .error f => .error f
    | .ok parent =>
      let name := l.getLast?.getD []
      match d.get? (parent ++ [name]), links with
      | some (.link target), links + 1 => d.writable links (Location.ofPath parent (.parse target))
      | _, _ => .ok (parent ++ [name])
  | .error f => .error f

/-- Writes a file and makes the directories above it. -/
def putFile (d : Disk) (l : Location) (content : Content) : Except Fault Disk := do
  let d ← d.makeDirectories l.dropLast
  let real ← d.writable maxLinks l
  let executable := match d.get? real with
    | some (.file _ x) => x
    | _ => false
  return d.set real (.file content executable)

/-- The location of a path whose last name is taken as it stands. -/
def entry (d : Disk) (l : Location) : Except Fault Location :=
  d.locate false [] (Location.display l)

/-- Removes what stands at a path, and all beneath it. -/
def remove (d : Disk) (l : Location) : Except Fault Disk := do
  return d.erase (← d.entry l)

/-- Makes a link in a directory that exists. -/
def makeLink (d : Disk) (l : Location) (target : Text) : Except Fault Disk := do
  let parent ← d.canonicalize [] (Location.display l.dropLast)
  let name := l.getLast?.getD []
  if !d.isDirectory parent then .error .notDirectory
  else if (d.get? (parent ++ [name])).isSome then .error .alreadyExists
  else return d.set (parent ++ [name]) (.link target)

end Disk
end Graft
