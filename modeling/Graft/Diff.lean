import Graft.Text

/-!
# Differences of texts

A shortest way from the lines of one text to those of another, as runs of lines that are kept,
removed or added. The search goes from both ends at once, divides where the two ways meet and goes
on in both parts. Afterwards added runs slide down as far as they can.
-/
namespace Graft.Diff

/-- The lines of a text with their ends. A carriage return ends a line too. -/
def lines : Text → List Text
  | [] => []
  | '\r' :: '\n' :: r => ['\r', '\n'] :: lines r
  | c :: r =>
    if c = '\n' || c = '\r' then [c] :: lines r
    else
      match lines r with
      | [] => [[c]]
      | l :: ls => (c :: l) :: ls

/-- A run of lines: the number of the first line before and after, and how many there are. -/
inductive Run where
  | keep (old new count : Nat)
  | remove (old new count : Nat)
  | add (old new count : Nat)
  deriving DecidableEq, Repr

namespace Run

def count : Run → Nat
  | keep _ _ n | remove _ _ n | add _ _ n => n

def oldStart : Run → Nat
  | keep i _ _ | remove i _ _ | add i _ _ => i

def newStart : Run → Nat
  | keep _ j _ | remove _ j _ | add _ j _ => j

def oldStop : Run → Nat
  | keep i _ n | remove i _ n => i + n
  | add i _ _ => i

def newStop : Run → Nat
  | keep _ j n | add _ j n => j + n
  | remove _ j _ => j

end Run

/-! ## Search -/

/-- The part of two sequences of lines that is looked at. -/
structure Window where
  oldStart : Nat
  oldStop : Nat
  newStart : Nat
  newStop : Nat

/-- How many lines from `i` and `j` on are the same, at most `limit`. -/
def commonAfter (old new : Array Text) (i j : Nat) : Nat → Nat
  | 0 => 0
  | limit + 1 =>
    if old[i]? == new[j]? then commonAfter old new (i + 1) (j + 1) limit + 1 else 0

/-- How many lines before `i` and `j` are the same, at most `limit`. -/
def commonBefore (old new : Array Text) (i j : Nat) : Nat → Nat
  | 0 => 0
  | limit + 1 =>
    if old[i - 1]? == new[j - 1]? then commonBefore old new (i - 1) (j - 1) limit + 1 else 0

/-- How far the search has come on each diagonal. -/
abbrev Reach := List (Int × Nat)

private def reachAt (r : Reach) (k : Int) : Nat := (r.lookup k).getD 0

/-- The diagonals of a round, from the highest down. -/
def diagonals (d : Nat) : List Int :=
  (List.range (d + 1)).map fun (i : Nat) => (d : Int) - 2 * i

/-- Where the search goes on a diagonal in round `d`, before lines that are the same. -/
private def enter (r : Reach) (d : Nat) (k : Int) : Nat :=
  if k == -(d : Int) || (k != d && reachAt r (k - 1) < reachAt r (k + 1)) then reachAt r (k + 1)
  else reachAt r (k - 1) + 1

/-- One round from the beginning. Gives a meeting point, or the new reach. -/
def forward (old new : Array Text) (w : Window) (d : Nat) (back : Reach) :
    List Int → Reach → (Nat × Nat) ⊕ Reach
  | [], r => .inr r
  | k :: ks, r =>
    let n := w.oldStop - w.oldStart
    let m := w.newStop - w.newStart
    let delta : Int := n - m
    let x := enter r d k
    let y := ((x : Int) - k).toNat
    let x' := x + commonAfter old new (w.oldStart + x) (w.newStart + y) (min (n - x) (m - y))
    if delta % 2 != 0 && (k - delta).natAbs + 1 ≤ d && x' + reachAt back (delta - k) ≥ n then
      .inl (w.oldStart + x, w.newStart + y)
    else forward old new w d back ks ((k, x') :: r)

/-- One round from the end. -/
def backward (old new : Array Text) (w : Window) (d : Nat) (front : Reach) :
    List Int → Reach → (Nat × Nat) ⊕ Reach
  | [], r => .inr r
  | k :: ks, r =>
    let n := w.oldStop - w.oldStart
    let m := w.newStop - w.newStart
    let delta : Int := n - m
    let x := enter r d k
    let y := ((x : Int) - k).toNat
    let same := commonBefore old new (w.oldStop - x) (w.newStop - y) (min (n - x) (m - y))
    if delta % 2 == 0 && (k - delta).natAbs ≤ d && x + same + reachAt front (delta - k) ≥ n then
      .inl (w.oldStop - (x + same), w.newStop - (y + same))
    else backward old new w d front ks ((k, x + same) :: r)

/-- Rounds of both searches until they meet. -/
def meeting (old new : Array Text) (w : Window) : List Nat → Reach → Reach → Option (Nat × Nat)
  | [], _, _ => none
  | d :: ds, front, back =>
    match forward old new w d back (diagonals d) front with
    | .inl p => some p
    | .inr front =>
      match backward old new w d front (diagonals d) back with
      | .inl p => some p
      | .inr back => meeting old new w ds front back

/-- The runs of a window; `fuel` bounds how often it is divided. -/
def divide (old new : Array Text) : Nat → Window → List Run
  | 0, w =>
    [.remove w.oldStart w.newStart (w.oldStop - w.oldStart),
      .add w.oldStart w.newStart (w.newStop - w.newStart)]
  | fuel + 1, w =>
    let extent := min (w.oldStop - w.oldStart) (w.newStop - w.newStart)
    let first := commonAfter old new w.oldStart w.newStart extent
    let last := commonBefore old new w.oldStop w.newStop (extent - first)
    let w' : Window :=
      ⟨w.oldStart + first, w.oldStop - last, w.newStart + first, w.newStop - last⟩
    let n := w'.oldStop - w'.oldStart
    let m := w'.newStop - w'.newStart
    let middle :=
      if n = 0 && m = 0 then []
      else if m = 0 then [Run.remove w'.oldStart w'.newStart n]
      else if n = 0 then [Run.add w'.oldStart w'.newStart m]
      else
        match meeting old new w' (List.range ((n + m + 1) / 2 + 1)) [(1, 0)] [(1, 0)] with
        | some (x, y) =>
          divide old new fuel ⟨w'.oldStart, x, w'.newStart, y⟩ ++
            divide old new fuel ⟨x, w'.oldStop, y, w'.newStop⟩
        | none => [.remove w'.oldStart w'.newStart n, .add w'.oldStart w'.newStart m]
    (if first > 0 then [.keep w.oldStart w.newStart first] else []) ++ middle ++
      (if last > 0 then [.keep w'.oldStop w'.newStop last] else [])

/-! ## Sliding

A place in a list of runs: the runs before it, the nearest first, the run itself, and those after.
-/

structure Place where
  before : List Run
  run : Run
  after : List Run

/-- Moves an added run up through kept lines, or a removed one past added ones. Runs of one kind
that meet become one. -/
def slideUp (old new : Array Text) : Nat → Place → Place
  | 0, p => p
  | fuel + 1, p =>
    match p.before, p.run with
    | [], _ => p
    | .keep _ _ 0 :: before, run => slideUp old new fuel ⟨before, run, p.after⟩
    | .keep i j n :: before, .add x y m =>
      let s := commonBefore old new (i + n) (y + m) (min n m)
      if s = 0 then p
      else
        let after := match p.after with
          | .keep i' j' n' :: rest => .keep (i' - s) (j' - s) (n' + s) :: rest
          | rest => .keep (i + n - s) (y + m - s) s :: rest
        slideUp old new fuel ⟨if n = s then before else .keep i j (n - s) :: before,
          .add (x - s) (y - s) m, after⟩
    | .keep .. :: _, _ => p
    | .add i j n :: before, .add _ _ m => slideUp old new fuel ⟨before, .add i j (n + m), p.after⟩
    | .remove i j n :: before, .remove _ _ m =>
      slideUp old new fuel ⟨before, .remove i j (n + m), p.after⟩
    | other :: before, run => slideUp old new fuel ⟨before, run, other :: p.after⟩

/-- Moves an added run down through kept lines, or a removed one past added ones. -/
def slideDown (old new : Array Text) : Nat → Place → Place
  | 0, p => p
  | fuel + 1, p =>
    match p.after, p.run with
    | [], _ => p
    | .keep _ _ 0 :: after, run => slideDown old new fuel ⟨p.before, run, after⟩
    | .keep i j n :: after, .add x y m =>
      let s := commonAfter old new i y (min n m)
      if s = 0 then p
      else
        let before := match p.before with
          | .keep i' j' n' :: rest => .keep i' j' (n' + s) :: rest
          | rest => .keep i y s :: rest
        slideDown old new fuel ⟨before, .add (x + s) (y + s) m,
          if n = s then after else .keep (i + s) (j + s) (n - s) :: after⟩
    | .keep .. :: _, _ => p
    | .add _ _ m :: after, .add i j n => slideDown old new fuel ⟨p.before, .add i j (n + m), after⟩
    | .remove _ _ m :: after, .remove i j n =>
      slideDown old new fuel ⟨p.before, .remove i j (n + m), after⟩
    | other :: after, run => slideDown old new fuel ⟨other :: p.before, run, after⟩

/-- Slides every run of the chosen kind up and then down, from the first on. -/
def slideAll (old new : Array Text) (chosen : Run → Bool) :
    Nat → List Run → List Run → List Run
  | _, before, [] => before.reverse
  | 0, before, rest => before.reverse ++ rest
  | fuel + 1, before, run :: after =>
    if chosen run then
      let reach := 2 * (old.size + new.size) + before.length + after.length + 2
      let p := slideDown old new reach (slideUp old new reach ⟨before, run, after⟩)
      slideAll old new chosen fuel (p.run :: p.before) p.after
    else slideAll old new chosen fuel (run :: before) after

private def isRemove : Run → Bool
  | .remove .. => true
  | _ => false

private def isAdd : Run → Bool
  | .add .. => true
  | _ => false

/-! ## Changes -/

/-- Kept lines, or removed lines with those that replace them. -/
inductive Change where
  | keep (old new count : Nat)
  | replace (old removed new added : Nat)
  deriving DecidableEq, Repr

namespace Change

def oldStart : Change → Nat
  | keep i _ _ | replace i _ _ _ => i

def newStart : Change → Nat
  | keep _ j _ | replace _ _ j _ => j

def oldStop : Change → Nat
  | keep i _ n | replace i n _ _ => i + n

def newStop : Change → Nat
  | keep _ j n | replace _ _ j n => j + n

end Change

/-- Adds a run to changes, last first. Neighbours of one kind become one; a change begins where its
removed lines begin before and its added lines begin after. -/
def join (changes : List Change) (run : Run) : List Change :=
  match run, changes with
  | .keep _ _ n, .keep i j m :: rest => .keep i j (m + n) :: rest
  | .keep i j n, cs => .keep i j n :: cs
  | .remove i _ n, .replace _ 0 j a :: rest => .replace i n j a :: rest
  | .remove _ _ n, .replace i r j a :: rest => .replace i (r + n) j a :: rest
  | .remove i j n, cs => .replace i n j 0 :: cs
  | .add _ j n, .replace i r _ 0 :: rest => .replace i r j n :: rest
  | .add _ _ n, .replace i r j a :: rest => .replace i r j (a + n) :: rest
  | .add i j n, cs => .replace i 0 j n :: cs

/-- The changes from one sequence of lines to another. -/
def changes (old new : Array Text) : List Change :=
  let fuel := old.size + new.size + 1
  let runs := divide old new fuel ⟨0, old.size, 0, new.size⟩
  let steps := 4 * (fuel + runs.length)
  let runs := slideAll old new isRemove steps [] runs
  let runs := slideAll old new isAdd steps [] runs
  (runs.foldl join []).reverse

end Graft.Diff
