import Graft.Disk

/-!
# Workspace guards

A guard knows the root of a workspace and the directories in it that are not to be written. It
resolves a path through all links before it judges it.
-/
namespace Graft

/-- The canonical root and the canonical forbidden directories, as they were at opening. -/
structure Guard where
  root : Location
  forbidden : List Location
  deriving DecidableEq, Repr

namespace Guard

/-- Why a path may not be written. -/
inductive Refusal where
  | outside (path root : Location)
  | forbidden (path directory : Location)
  | noFileName (path : Text)
  | unresolved (fault : Disk.Fault)
  deriving DecidableEq, Repr

private def showLocation (l : Location) : String := String.ofList l.display

def Refusal.message : Refusal → String
  | outside path root =>
    s!"Path is outside workspace: {showLocation path} (workspace: {showLocation root})"
  | forbidden path directory =>
    s!"Path is in forbidden directory: {showLocation path} (forbidden: {showLocation directory})"
  | noFileName path => s!"Path has no file name: {String.ofList path}"
  | unresolved fault => s!"Failed to canonicalize path: {fault.message}"

/-- Opens a workspace. The build tool's caches and output, as far as they exist, are forbidden. -/
def create (d : Disk) (base : Location) (home : Text) (root : Text) : Except Refusal Guard :=
  match d.canonicalize base root with
  | .error f => .error (.unresolved f)
  | .ok r =>
    let candidates := [Path.under home ".gradle".toList,
      Path.under r.display ".gradle".toList, Path.under r.display "build".toList]
    .ok ⟨r, candidates.filterMap fun c => (d.canonicalize base c).toOption⟩

/-- Judges a canonical location. -/
def judge (g : Guard) (l : Location) : Except Refusal Unit :=
  if !l.isWithin g.root then .error (.outside l g.root)
  else
    match g.forbidden.find? l.isWithin with
    | some f => .error (.forbidden l f)
    | none => .ok ()

/-- The path of a text from the root of the workspace. -/
def absolute (g : Guard) (t : Text) : Text := Path.under g.root.display t

/-- Where a path leads. The last name need not exist, but the directory above it must. -/
def resolve (g : Guard) (d : Disk) (t : Text) : Except Refusal Location :=
  let whole := g.absolute t
  match d.canonicalize g.root whole with
  | .ok l => .ok l
  | .error .notFound =>
    let path := Path.parse whole
    match path.fileName? with
    | none => .error (.noFileName whole)
    | some name =>
      match d.walk true Disk.maxLinks [] path.components.dropLast with
      | .ok parent => .ok (parent ++ [name])
      | .error f => .error (.unresolved f)
  | .error f => .error (.unresolved f)

/-- The canonical location a path may be written at. -/
def validate (g : Guard) (d : Disk) (t : Text) : Except Refusal Location := do
  let l ← g.resolve d t
  g.judge l
  return l

end Guard
end Graft
