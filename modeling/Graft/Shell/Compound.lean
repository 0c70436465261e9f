import Graft.Shell.Call

/-!
# Compound commands

Chains, pipelines, branches and loops. The commands of a pipeline run one after another: each writes
to a pipe with limited room, and if the next one asks for more than the pipe could take, all run
again with more room.
-/
namespace Graft.Shell

/-- How much a pipe takes before its reader begins, in the first and in later attempts. -/
def rooms : List Nat := [Nat.pow 2 16, Nat.pow 2 20, Nat.pow 2 23, Nat.pow 2 27]

/-- Puts a mark on a pipe that its writer did not fill to the end. -/
private def cutPipe (s : State) (index : Nat) : State :=
  match s.opened[index]? with
  | some ⟨.pipe front back _ _, offset, append, readable, writable⟩ =>
    let o : Opened := ⟨.pipe front back 0 true, offset, append, readable, writable⟩
    { s with opened := s.opened.setIfInBounds index o }
  | _ => s

/-- A loop goes on, or is left, after a round. -/
inductive Turn where
  | next (s : State)
  | stop (s : State)

def turn (s : State) : Turn :=
  match s.halt with
  | none => .next s
  | some (.again 1) => .next { s with halt := none }
  | some (.leave 1) => .stop { s with halt := none }
  | some (.again n) => .stop { s with halt := some (.again (n - 1)) }
  | some (.leave n) => .stop { s with halt := some (.leave (n - 1)) }
  | some _ => .stop s

namespace Runner

/-! ## Pipelines -/

/-- Runs commands, each reading what the one before it printed. -/
def runPiped (r : Runner) (room : Nat) : State → Option Nat → List Command → State
  | s, _, [] => s
  | s, input, c :: rest =>
    let child := match input with
      | some i => (fork s).setDescriptor 0 i
      | none => fork s
    if rest.isEmpty then resume s (r.conclude (r.command child c))
    else
      let (child, i) := child.openPipe [] room
      let s := rejoin s (r.conclude (r.command (child.setDescriptor 1 i) c))
      let s := if s.starved then { cutPipe s i with starved := false } else s
      r.runPiped room s (some i) rest

/-- Runs the commands of a pipeline with as much room as they need. -/
def runRooms (r : Runner) (s : State) (cs : List Command) : List Nat → State
  | [] => s
  | room :: more =>
    let after := r.runPiped room { s with starved := false } none cs
    if after.starved && !more.isEmpty then r.runRooms s cs more
    else { after with starved := s.starved || after.starved }

/-- Whether a failure of the command can end a strict shell. -/
private def counts : List Command → Bool
  | [.simple ..] | [.subshell ..] => true
  | [_] => false
  | _ => true

def runPipeline (r : Runner) (s : State) : Pipeline → State
  | .mk negated commands =>
    let tested := s.tested
    let inner := { s with tested := tested || negated }
    let after := match commands with
      | [c] => r.command inner c
      | cs => r.runRooms inner cs rooms
    let s := r.settle (after.pending.length + 64) { after with tested }
    if s.halt.isSome then s
    else if negated then s.finish (if s.status == 0 then 1 else 0)
    else if counts commands && s.has 'e' && !tested && s.status != 0 then s.exit s.status
    else s

/-- Goes on with a chain. -/
def runLinks (r : Runner) (tested : Bool) : State → List (Bool × Pipeline) → State
  | s, [] => s
  | s, (onSuccess, p) :: rest =>
    if s.halt.isSome then s
    else if onSuccess == (s.status == 0) then
      let s := r.runPipeline { s with tested := tested || !rest.isEmpty } p
      r.runLinks tested { s with tested } rest
    else r.runLinks tested s rest

/-- Runs chains one after another. -/
def runChains (r : Runner) : State → List Chain → State
  | s, [] => s
  | s, .mk first rest background :: more =>
    if s.halt.isSome || s.has 'n' then s
    else if background then r.runChains (startJob s (.mk first rest false)) more
    else
      let tested := s.tested
      let s := r.runPipeline { s with tested := tested || !rest.isEmpty } first
      r.runChains (r.runLinks tested { s with tested } rest) more

/-! ## Branches and loops -/

/-- Runs chains as a condition. -/
private def runCondition (r : Runner) (s : State) (condition : List Chain) : State :=
  { r.chains { s with tested := true } condition with tested := s.tested }

def runArms (r : Runner) (otherwise : List Chain) : State → List (List Chain × List Chain) → State
  | s, [] => r.chains (s.finish 0) otherwise
  | s, (condition, body) :: rest =>
    let s := r.runCondition s condition
    if s.halt.isSome then s
    else if s.status == 0 then r.chains s body
    else r.runArms otherwise s rest

/-- Repeats a body; `status` is that of its last round. -/
def runLoop (r : Runner) (goal : Bool) (condition body : List Chain) : Nat → Nat → State → State
  | 0, _, s => s
  | count + 1, status, s =>
    let s := r.runCondition s condition
    match turn s with
    | .stop s => if s.halt.isSome then s else s.finish status
    | .next s' =>
      if s.halt.isSome then r.runLoop goal condition body count status s'
      else if (s'.status == 0) != goal then s'.finish status
      else
        match turn (r.chains s' body) with
        | .next s => r.runLoop goal condition body count s.status s
        | .stop s => s

/-- Runs a body for each value. -/
def runEach (r : Runner) (line : Nat) (name : Bytes) (body : List Chain) : State → List Bytes → State
  | s, [] => s
  | s, v :: rest =>
    let s := { s with line }.setVariable name v
    if s.halt.isSome then s
    else
      match turn (r.chains s body) with
      | .next s => r.runEach line name body s rest
      | .stop s => s

/-- Whether one of the patterns fits. -/
def anyFits (r : Runner) (t : Bytes) : State → List Word → State × Bool
  | s, [] => (s, false)
  | s, w :: rest =>
    let (s, ps) := r.word s false w
    if s.halt.isSome then (s, false)
    else if Glob.covers (Piece.glob ps) t then (s, true)
    else r.anyFits t s rest

/-- Runs the first arm with a pattern that fits. -/
def runChoice (r : Runner) (t : Bytes) : State → List (List Word × List Chain) → State
  | s, [] => s.finish 0
  | s, (patterns, body) :: rest =>
    let (s, fits) := r.anyFits t s patterns
    if s.halt.isSome then s
    else if fits then r.chains (s.finish 0) body
    else r.runChoice t s rest

/-! ## Commands -/

/-- Runs commands in a copy of the shell. -/
private def runSubshell (r : Runner) (s : State) (body : List Chain) (rs : List Redirect) : State :=
  let child := match r.redirectAll (fork s) rs with
    | (child, true) => r.chains child body
    | (child, false) => if child.halt.isSome then child else child.exit 2
  resume s (r.conclude child)

/-- Runs a command with redirections that last as long as it runs. -/
private def runRedirected (r : Runner) (s : State) (body : Command) (rs : List Redirect) : State :=
  let descriptors := s.descriptors
  match r.redirectAll s rs with
  | (s, true) => { r.command s body with descriptors }
  | (s, false) => { s with descriptors }

def runCommand (r : Runner) (s : State) : Command → State
  | .simple line assigned words rs => r.runSimple { s with line } assigned words rs
  | .redirected line body rs => r.runRedirected { s with line } body rs
  | .group body => r.chains s body
  | .subshell line body rs => r.runSubshell { s with line } body rs
  | .branch arms otherwise => r.runArms otherwise s arms
  | .loop goal condition body =>
    let loops := s.loops
    { r.runLoop goal condition body r.steps 0 { s with loops := loops + 1 } with loops }
  | .each line name words body =>
    let (s, values) := match words with
      | some ws => r.expandFields { s with line } [] ws
      | none => ({ s with line }, s.arguments)
    if s.halt.isSome then s
    else
      let loops := s.loops
      { r.runEach line name body { s.finish 0 with loops := loops + 1 } values with loops }
  | .choice line word arms =>
    let (s, t) := r.expandText { s with line } word
    if s.halt.isSome then s else r.runChoice t s arms
  | .define name body =>
    { s with
      functions := (name, body) :: s.functions.filter (·.1 != name)
      status := 0 }

/-! ## Texts -/

/-- Runs the lines of a script from a place on, at most so many. -/
def runLines (r : Runner) : Nat → State → Cursor → State
  | 0, s, _ => s
  | count + 1, s, c =>
    match readLine { c with aliases := s.aliases } with
    | .error d => { s with line := d.line }.abort d.message.toList
    | .ok none => s
    | .ok (some (cs, next)) =>
      let s := if s.has 'v' then
          { s.write 2 (c.rest.take (c.rest.length - next.rest.length)) with lost := s.lost }
        else s
      let s := r.chains s cs
      if s.halt.isSome then s else r.runLines count s next

/-- Runs a text as a part of the script, line by line. -/
def runText (r : Runner) (s : State) (script : Bytes) : State :=
  r.runLines (script.length + 1) s ⟨script, 1, 0, s.aliases, []⟩

end Runner
end Graft.Shell
