import Graft.Text

/-!
# Paths

A path is written as names between slashes. `.` stays where it is and `..` goes up. A location is a
path from the root that has neither, as the list of its names.
-/
namespace Graft

/-- An absolute place: the names from the root on. -/
abbrev Location := List Text

/-- A part of a path. -/
inductive Path.Piece where
  | here
  | up
  | name (n : Text)
  deriving DecidableEq, Repr

/-- A path as written. A slash at the end counts as `.`. -/
structure Path where
  absolute : Bool
  pieces : List Path.Piece
  deriving DecidableEq, Repr

namespace Path

/-- The parts of a text between separators. -/
def split (separator : Char) : Text → List Text
  | [] => [[]]
  | c :: r =>
    match split separator r with
    | [] => [[c]]
    | p :: ps => if c = separator then [] :: p :: ps else (c :: p) :: ps

def piece (n : Text) : Piece :=
  match n with
  | ['.'] => .here
  | ['.', '.'] => .up
  | _ => .name n

/-- Reads a path. -/
def parse (t : Text) : Path :=
  let parts := split '/' t
  let pieces := (parts.filter (!·.isEmpty)).map piece
  let slashed := parts.length > 1 && !pieces.isEmpty && t.getLast? = some '/'
  ⟨t.head? = some '/', if slashed then pieces ++ [.here] else pieces⟩

/-- The pieces that tell paths apart: `.` counts only at the beginning of a relative path. -/
def components (p : Path) : List Piece :=
  match p.absolute, p.pieces with
  | false, .here :: rest => .here :: rest.filter (· ≠ .here)
  | _, pieces => pieces.filter (· ≠ .here)

/-- Paths that differ only in repeated slashes, slashes at the end and `.` inside are the same. -/
def same (s t : Text) : Bool :=
  (parse s).absolute == (parse t).absolute && (parse s).components == (parse t).components

/-- The last component, if it is a name. -/
def fileName? (p : Path) : Option Text :=
  match p.components.getLast? with
  | some (.name n) => some n
  | _ => none

/-- The part of a name after its last point, if something stands before the point. -/
def extension? (name : Text) : Option Text :=
  match (split '.' name).reverse with
  | [] | [_] | [_, []] => none
  | last :: _ => some last

/-- A text put behind a directory; an absolute text stands for itself. -/
def under (directory t : Text) : Text :=
  if t.head? = some '/' then t
  else if directory.isEmpty || directory.getLast? = some '/' then directory ++ t
  else directory ++ '/' :: t

end Path

namespace Location

/-- A location as a path. -/
def display (l : Location) : Text := '/' :: Text.join ['/'] l

/-- Follows pieces by name only, without looking at the disk. -/
def follow (l : Location) (pieces : List Path.Piece) : Location :=
  pieces.foldl (fun here p =>
    match p with
    | .here => here
    | .up => here.dropLast
    | .name n => here ++ [n]) l

/-- The location a path names when links are not looked at. -/
def ofPath (base : Location) (p : Path) : Location :=
  follow (if p.absolute then [] else base) p.pieces

/-- Whether the location is at or beneath a directory. -/
def isWithin (l directory : Location) : Bool := directory.isPrefixOf l

/-- Compares texts character by character. -/
def compareText : Text → Text → Ordering
  | [], [] => .eq
  | [], _ :: _ => .lt
  | _ :: _, [] => .gt
  | c :: r, d :: s => if c < d then .lt else if d < c then .gt else compareText r s

/-- Compares locations name by name. -/
def compare : Location → Location → Ordering
  | [], [] => .eq
  | [], _ :: _ => .lt
  | _ :: _, [] => .gt
  | n :: ns, m :: ms =>
    match compareText n m with
    | .eq => compare ns ms
    | o => o

end Location
end Graft
