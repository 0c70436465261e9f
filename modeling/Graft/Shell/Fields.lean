import Graft.Shell.State

/-!
# Fields

What a word expands to is divided into fields, and a field with a pattern becomes the paths that it
fits. White space between fields counts once; any other separator ends a field of its own.
-/
namespace Graft.Shell

/-- A piece of an expanded word. Only what came from an expansion without quotes is split; there a
null character stands between arguments. -/
inductive Piece where
  | bytes (t : Bytes) (quoted splits : Bool)
  /-- The place between two quoted arguments. -/
  | gap

namespace Piece

/-- The text of pieces that are not split. -/
def text (ps : List Piece) : Bytes :=
  ps.flatMap fun
    | .bytes t _ _ => t
    | .gap => [' ']

/-- The pattern that pieces make. -/
def glob (ps : List Piece) : Glob :=
  ps.flatMap fun
    | .bytes t quoted _ => Glob.ofBytes quoted t
    | .gap => [(' ', true)]

/-- What is written out in a fallback is split like what an expansion gives. -/
def loosen (ps : List Piece) : List Piece :=
  ps.map fun
    | .bytes t false _ => .bytes t false true
    | p => p

end Piece

/-- The fields so far, last first, and the one that is being read, backwards. -/
structure Fields where
  done : List Glob
  current : Glob
  started : Bool
  /-- Separators are passed over; one that is no white space may still come. -/
  passing : Option Bool
  /-- How many fields may follow, if they are limited. The last takes all that is left. -/
  room : Option Nat
  /-- How much of the last field counts, if separators stand at its end. -/
  kept : Option Nat
  /-- The last separator was white space. -/
  wasBlank : Bool

namespace Fields

def isNull (c : Char) : Bool := c.toNat == 0

def isBlank (c : Char) : Bool := c == ' ' || c == '\t' || c == '\n' || isNull c

def append (f : Fields) (g : Glob) : Fields :=
  { f with current := g.reverse ++ f.current, started := true, passing := none }

/-- Ends the current field. -/
def close (f : Fields) : Fields :=
  { f with done := f.current.reverse :: f.done, current := [], started := false, passing := none }

/-- A separator that is not passed over. -/
def separate (f : Fields) (c : Char) : Fields :=
  if isBlank c && !f.started then f
  else
    match f.room with
    | some 1 =>
      { f with
        room := some 0
        kept := some f.current.length
        wasBlank := isBlank c
        current := (c, false) :: f.current }
    | room => { f.close with room := room.map (· - 1), passing := some (isBlank c) }

/-- A character of the last of a limited number of fields. -/
def addLast (f : Fields) (isSeparator : Bool) (c : Char) : Fields :=
  let f' := { f with current := (c, false) :: f.current }
  if isSeparator && isBlank c then { f' with kept := f.kept <|> some f.current.length }
  else { f' with kept := if isSeparator && f.wasBlank then f.kept else none, wasBlank := false }

/-- A character that may divide fields. -/
def add (separators : Bytes) (f : Fields) (c : Char) : Fields :=
  let isSeparator := isNull c || separators.contains c
  match f.room, f.passing with
  | some 0, _ => f.addLast isSeparator c
  | _, some mayCome =>
    if !isSeparator then f.append [(c, false)]
    else if isBlank c then f
    else if mayCome then { f with passing := some false }
    else { f with passing := none }.separate c
  | _, none => if isSeparator then f.separate c else f.append [(c, false)]

def piece (separators : Bytes) (f : Fields) : Piece → Fields
  | .gap => f.close
  | .bytes t quoted splits =>
    if splits then { t.foldl (add separators) f with passing := none }
    else if t.isEmpty && !quoted then f
    else f.append (Glob.ofBytes quoted t)

/-- The fields that pieces are divided into, at most `room` of them. -/
def split (separators : Bytes) (room : Option Nat) (ps : List Piece) : List Glob :=
  let f := ps.foldl (piece separators) ⟨[], [], false, none, room, none, false⟩
  let last := match f.kept with
    | some n => f.current.reverse.take n
    | none => f.current.reverse
  let isEmpty := if f.kept.isSome then last.isEmpty else !f.started && last.isEmpty
  ((if isEmpty then [] else [last]) ++ f.done).reverse

end Fields

/-! ## Paths -/

/-- Compares bytes by their codes. -/
def notAfter (a b : Bytes) : Bool := Location.compareText a b != .gt

/-- The names in a directory that fit a pattern. Hidden names fit only a pattern that says so. -/
def namesIn (s : State) (directory : Bytes) (g : Glob) : List Bytes :=
  let d := s.disk
  match d.reach s.here (if directory.isEmpty then ['.'] else Bytes.toText directory) with
  | .error _ => []
  | .ok l =>
    if !d.isDirectory l then []
    else
      let isHidden := g.head?.map (·.1) == some '.'
      let names := (d.list l).map (Bytes.ofText ·.1) ++ if isHidden then [['.'], ['.', '.']] else []
      names.filter fun n => (isHidden || n.head? != some '.') && Glob.covers g n

/-- The paths that fit the parts of a pattern behind a directory. -/
def pathsBehind (s : State) : Bytes → List Glob → List Bytes
  | _, [] => []
  | directory, [g] =>
    if Glob.isOpen g then (namesIn s directory g).map (directory ++ ·)
    else
      let path := directory ++ Glob.text g
      match s.disk.locate false s.here (Bytes.toText path) with
      | .ok _ => [path]
      | .error _ => if (device? path).isSome then [path] else []
  | directory, g :: gs =>
    if Glob.isOpen g then
      (namesIn s directory g).flatMap fun n => pathsBehind s (directory ++ n ++ ['/']) gs
    else pathsBehind s (directory ++ Glob.text g ++ ['/']) gs

/-- The paths that a pattern fits in order, or the pattern itself if there are none. -/
def paths (s : State) (g : Glob) : List Bytes :=
  let gs := Glob.components g
  if s.has 'f' || !gs.any Glob.isOpen then [Glob.text g]
  else
    match pathsBehind s [] gs with
    | [] => [Glob.text g]
    | found => found.mergeSort notAfter

end Graft.Shell
