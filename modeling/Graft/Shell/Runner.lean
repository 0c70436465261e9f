import Graft.Shell.Launch

/-!
# Runners

What can be run, as functions on the state of a process. The parts of the shell are defined for any
runner of what they contain, and use one with fewer steps left than they have themselves.
-/
namespace Graft.Shell

structure Runner where
  /-- How many more steps may follow. -/
  steps : Nat
  /-- Expands a word. What comes from expansions is split only if the flag says so. -/
  word : State → Bool → Word → State × List Piece
  command : State → Command → State
  /-- Runs chains one after another. -/
  chains : State → List Chain → State
  /-- Runs a text as a part of the script. -/
  text : State → Bytes → State
  /-- Runs a program in place of the process. -/
  image : State → List Bytes → State

namespace Runner

/-- A runner that does nothing. -/
def idle : Runner where
  steps := 0
  word s _ _ := (s, [])
  command s _ := s
  chains s _ := s
  text s _ := s
  image s _ := s

/-- Ends a shell: what its trap says is done before. -/
def conclude (r : Runner) (s : State) : State :=
  let isKilled := match s.halt with
    | some (.ended (.killed _)) => true
    | _ => false
  if isKilled then s
  else
    let status := (ending s).status
    match s.traps.lookup 0 with
    | none => s.exit status
    | some action =>
      let inner := { s with
        halt := none, status, traps := s.traps.filter (·.1 != 0), tested := false, loops := 0 }
      let after := r.text inner action
      match after.halt with
      | some (.ended _) => after
      | some .failed => after.exit 2
      | _ => after.exit status

end Runner
end Graft.Shell
