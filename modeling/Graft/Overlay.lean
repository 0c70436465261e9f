import Graft.Guard

/-!
# Overlays

An overlay keeps new contents of files apart from the disk until they are committed. Files are known
by their location without regard to links; the first contact with a file notes what the disk holds.
-/
namespace Graft

/-- A file in the overlay. `saved` is the text on the disk, if there was a file. -/
structure Overlay.Entry where
  saved : Option Text
  current : Text
  deriving DecidableEq, Repr

/-- The entries are sorted by location. -/
structure Overlay where
  guard : Guard
  entries : List (Location × Overlay.Entry)
  deriving DecidableEq, Repr

namespace Overlay

/-- Why a file cannot be read, staged or committed. -/
inductive Failure where
  | notFound (path : Location)
  | notText (path : Location)
  | refused (refusal : Guard.Refusal)
  | fault (path : Location) (fault : Disk.Fault)
  deriving DecidableEq, Repr

def Failure.message : Failure → String
  | notFound path => s!"not found: {String.ofList path.display}"
  | notText path => s!"not valid UTF-8: {String.ofList path.display}"
  | refused refusal => refusal.message
  | fault path f => s!"I/O error on {String.ofList path.display}: {f.message}"

def Failure.ofFault (path : Location) : Disk.Fault → Failure
  | .notFound => notFound path
  | .notText => notText path
  | f => fault path f

/-- An overlay with nothing in it. -/
def create (d : Disk) (base : Location) (home root : Text) : Except Failure Overlay :=
  match Guard.create d base home root with
  | .ok g => .ok ⟨g, []⟩
  | .error r => .error (.refused r)

/-- The file differs from the disk. -/
def Entry.isDirty (e : Entry) : Bool := e.saved != some e.current

/-- The location a path names. -/
def key (o : Overlay) (path : Text) : Location :=
  Location.ofPath o.guard.root (.parse path)

def get? (o : Overlay) (l : Location) : Option Entry := o.entries.lookup l

/-- Puts an entry into a sorted list. -/
def insertEntry (l : Location) (e : Entry) : List (Location × Entry) → List (Location × Entry)
  | [] => [(l, e)]
  | (m, f) :: rest =>
    match Location.compare l m with
    | .lt => (l, e) :: (m, f) :: rest
    | .eq => (l, e) :: rest
    | .gt => (m, f) :: insertEntry l e rest

def insert (o : Overlay) (l : Location) (e : Entry) : Overlay :=
  { o with entries := insertEntry l e o.entries }

/-- The text of a file on the disk, links followed. -/
def onDisk (d : Disk) (l : Location) : Except Disk.Fault Text := d.readText [] l.display

/-- The text of a file: as staged, else as on the disk. -/
def read (o : Overlay) (d : Disk) (path : Text) : Except Failure Text × Overlay :=
  let l := o.key path
  match o.get? l with
  | some e => (.ok e.current, o)
  | none =>
    match onDisk d l with
    | .ok t => (.ok t, o.insert l ⟨some t, t⟩)
    | .error f => (.error (.ofFault l f), o)

/-- Stages a text for a file. -/
def write (o : Overlay) (d : Disk) (path content : Text) : Except Failure Unit × Overlay :=
  let l := o.key path
  match o.guard.validate d l.display with
  | .error r => (.error (.refused r), o)
  | .ok _ =>
    match o.get? l with
    | some e => (.ok (), o.insert l { e with current := content })
    | none =>
      match onDisk d l with
      | .ok t => (.ok (), o.insert l ⟨some t, content⟩)
      | .error .notFound => (.ok (), o.insert l ⟨none, content⟩)
      | .error f => (.error (.ofFault l f), o)

/-- The files that differ from the disk, by location. -/
def staged (o : Overlay) : List (Location × Entry) := o.entries.filter (·.2.isDirty)

/-- Forgets everything staged and read. -/
def discard (o : Overlay) : Overlay := { o with entries := [] }

/-- Where the staged files go. Every path is resolved before any file is put in place. -/
def prepare (g : Guard) (d : Disk) :
    List (Location × Entry) → Except Failure (List (Location × Text))
  | [] => .ok []
  | (l, e) :: rest =>
    match g.validate d l.display with
    | .error r => .error (.refused r)
    | .ok target =>
      if target = [] then .error (.notFound target)
      else if !d.isDirectory target.dropLast then
        .error (.ofFault target.dropLast .notDirectory)
      else (prepare g d rest).map ((target, e.current) :: ·)

/-- Puts files in place one after another; each target is resolved once more right before. On a
failure the disk is left as it is then. -/
def install (g : Guard) (d : Disk) : List (Location × Text) → Except Failure Unit × Disk
  | [] => (.ok (), d)
  | (target, content) :: rest =>
    match g.validate d target.display with
    | .error r => (.error (.refused r), d)
    | .ok _ =>
      match d.replaceFile target content with
      | .error f => (.error (.ofFault target f), d)
      | .ok d' => install g d' rest

/-- Writes every staged file to the disk and gives the locations written. -/
def commit (o : Overlay) (d : Disk) : Except Failure (List Location) × Overlay × Disk :=
  match prepare o.guard d o.staged with
  | .error f => (.error f, o, d)
  | .ok [] => (.ok [], o, d)
  | .ok targets =>
    match install o.guard d targets with
    | (.error f, d') => (.error f, o, d')
    | (.ok (), d') =>
      let settled := o.entries.map fun (l, e) => (l, { e with saved := some e.current })
      (.ok (targets.map (·.1)), { o with entries := settled }, d')

end Overlay
end Graft
