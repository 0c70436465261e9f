import Graft.Shell.Regex.Search

/-!
# Replacing what an expression matches

Matches are replaced from left to right. An empty match right behind another match is passed over.
-/
namespace Graft.Shell.Regex

/-- Which matches are replaced. -/
structure Scope where
  /-- The number of the first one. -/
  first : Nat
  /-- All that follow are replaced as well. -/
  isGlobal : Bool

/-- Replaces matches from a place on. Gives the pieces of the new text, last first, and how many
matches were replaced. -/
private def replaceFrom (p : Program) (t : Array Char) (lines : Bool) (scope : Scope)
    (new : Match → Bytes) :
    Nat → Nat → Nat → Option Nat → List Bytes → Nat → List Bytes × Nat
  | 0, _, start, _, done, count => ((t.extract start t.size).toList :: done, count)
  | fuel + 1, number, start, last, done, count =>
    let rest : List Bytes × Nat := ((t.extract start t.size).toList :: done, count)
    if t.size < start then (done, count)
    else
      match p.search t start lines with
      | none => rest
      | some found =>
        match found.getD 0 none with
        | none => rest
        | some (a, z) =>
          if a == z && last == some a then
            let done := (t.extract start (a + 1)).toList :: done
            replaceFrom p t lines scope new fuel number (a + 1) none done count
          else
            let isMeant : Bool := scope.first ≤ number
            let text := if isMeant then new found else (t.extract a z).toList
            let done := text :: (t.extract start a).toList :: done
            let (next, done) := if a == z then (z + 1, (t.extract z (z + 1)).toList :: done)
              else (z, done)
            let count := if isMeant then count + 1 else count
            if isMeant && !scope.isGlobal then
              (if t.size < next then done else (t.extract next t.size).toList :: done, count)
            else replaceFrom p t lines scope new fuel (number + 1) next (some z) done count

/-- The text with matches replaced, and how many of them were. -/
def Program.replace (p : Program) (t : Bytes) (lines : Bool) (scope : Scope) (new : Match → Bytes) :
    Bytes × Nat :=
  let t := t.toArray
  let (pieces, count) := replaceFrom p t lines scope new (2 * t.size + 4) 1 0 none [] 0
  (pieces.reverse.flatten, count)

end Graft.Shell.Regex
