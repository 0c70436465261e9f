import Graft.Diff

/-!
# Hunks

Changes are shown in hunks, each with a few unchanged lines around it.
-/
namespace Graft.Diff

/-- How many unchanged lines are shown on either side. -/
def context : Nat := 3

/-- Cuts the unchanged lines before the first change. -/
def trimFirst : List Change → List Change
  | .keep i j n :: rest => .keep (i + (n - context)) (j + (n - context)) (min n context) :: rest
  | cs => cs

/-- Cuts the unchanged lines after the last change. -/
def trimLast : List Change → List Change
  | [] => []
  | [.keep i j n] => [.keep i j (min n context)]
  | c :: cs => c :: trimLast cs

/-- Divides changes where many lines are unchanged. -/
def group : List Change → List Change → List (List Change)
  | pending, [] => [pending.reverse]
  | pending, .keep i j n :: rest =>
    if n > 2 * context then
      (.keep i j context :: pending).reverse ::
        group [.keep (i + (n - context)) (j + (n - context)) context] rest
    else group (.keep i j n :: pending) rest
  | pending, c :: rest => group (c :: pending) rest

private def hasChange : List Change → Bool
  | [] | [.keep ..] => false
  | _ => true

/-- The hunks of changes. Only the last group can be without a change. -/
def hunks (cs : List Change) : List (List Change) :=
  let groups := group [] (trimLast (trimFirst cs))
  groups.dropLast ++ (groups.getLast?.filter hasChange).toList

/-- A range of lines, counted from one. An empty range begins at the line before it. -/
def range (start stop : Nat) : String :=
  if stop - start = 1 then s!"{start + 1}"
  else if stop ≤ start then s!"{start},0"
  else s!"{start + 1},{stop - start}"

def header (hunk : List Change) : Text :=
  match hunk.head?, hunk.getLast? with
  | some first, some last =>
    s!"@@ -{range first.oldStart last.oldStop} +{range first.newStart last.newStop} @@".toList
  | _, _ => []

/-- A line behind its sign. After a line without an end comes an empty line. -/
def showLine (sign : Char) (l : Text) : Text :=
  match l.getLast? with
  | some '\n' | some '\r' => sign :: l
  | _ => sign :: l ++ ['\n', '\n']

private def showLines (sign : Char) (ls : Array Text) (start count : Nat) : Text :=
  ((ls.toList.drop start).take count).flatMap (showLine sign)

def showChange (old new : Array Text) : Change → Text
  | .keep i _ n => showLines ' ' old i n
  | .replace i removed j added => showLines '-' old i removed ++ showLines '+' new j added

/-- The hunks from one text to another, each below its header. -/
def unified (before after : Text) : Text :=
  let old := (lines before).toArray
  let new := (lines after).toArray
  (hunks (changes old new)).flatMap fun hunk =>
    header hunk ++ ['\n'] ++ hunk.flatMap (showChange old new)

end Graft.Diff
