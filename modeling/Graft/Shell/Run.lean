import Graft.Shell.Compound
import Graft.Shell.Tool

/-!
# Running programs

A process runs a program of the system, a shell or a script. A run ends after at most `maxSteps`
nested steps.
-/
namespace Graft.Shell

/-- The programs that are shells. -/
def shells : List (String × Flavor) := [("dash", .plain), ("bash", .bash)]

/-- All programs of the system. -/
def programs : List Text := (shells.map (·.1) ++ Tool.table.map (·.1)).map String.toList

namespace Runner

/-- Runs a shell with the given name and arguments. -/
def runShell (r : Runner) (s : State) (flavor : Flavor) (name : Bytes) (args : List Bytes) : State :=
  let (s, t) := task (args.length + 1) false (newShell s flavor name) args
  if s.halt.isSome then s.exit s.status
  else
    match t with
    | .script t => r.conclude (r.text s t)
    | .input =>
      let (s, script) := s.takeAll 0
      r.conclude (r.text s script)
    | .file path =>
      match openPath s .read path with
      | .error message => ({ s with line := 0, name }.report 2 message).exit 2
      | .ok (opened, i) =>
        match opened.opened[i]? with
        | some ⟨.file _ script _, _, _, _, _⟩ => r.conclude (r.text s script)
        | _ => s.exit 0

/-- How programs run others. -/
def launcher (r : Runner) : Tool.Launch where
  replace := r.image
  run s words :=
    let child := r.image (fork s) words
    (rejoin s child, ending child)

/-- Runs a program of the system that was called by a path. Output that was lost is an error. -/
def runNamed (r : Runner) (s : State) (program path : Bytes) (args : List Bytes) : State :=
  let s := { s with called := path, status := 0 }
  match shells.lookup (String.ofList program), Tool.find? program with
  | some flavor, _ => r.runShell s flavor path args
  | none, some f =>
    let after := f r.launcher { s with lost := none } args
    match after.lost with
    | some reason =>
      if after.halt.isSome then after
      else ({ after with called := path }.grumble 1 ("write error: " ++ reason)).exit 1
    | none => if after.halt.isSome then after else after.exit after.status
  | none, none => s.exit 127

/-- Fails to start a program. -/
private def refuse (s : State) (status : Nat) (message : Bytes) : State :=
  { s.report status message with halt := some .failed }

/-- Runs a program in place of a process. A program that cannot be started is an error. -/
def runImage (r : Runner) (s : State) (words : List Bytes) : State :=
  let name := words.headD []
  let args := words.tail
  let absent : State := refuse s 127 (name ++ match s.flavor with
    | .plain => ": not found".toList
    | .bash => ": command not found".toList)
  let start (path : Bytes) : Except Disk.Fault Executable :=
    executable programs s.disk s.here path.toText
  match (if name.contains '/' then some name else search? s name) with
  | none => if name.isEmpty then refuse s 127 ": Permission denied".toList else absent
  | some path =>
    match start path with
    | .error .notFound | .error .notDirectory => absent
    | .error f => refuse s 126 (name ++ ": ".toList ++ f.reason.toList)
    | .ok (.program p) => r.runNamed s p name args
    | .ok (.script content) =>
      match interpreter? content with
      | none => r.runNamed s "dash".toList "/bin/sh".toList (path :: args)
      | some (interpreter, extra) =>
        match start interpreter with
        | .ok (.program p) => r.runNamed s p interpreter (extra ++ path :: args)
        | .ok (.script _) => r.image s (interpreter :: extra ++ path :: args)
        | .error .permissionDenied => refuse s 126 (name ++ ": Permission denied".toList)
        | .error _ => absent

/-- The runner that may go so many steps deep. -/
def ofSteps : Nat → Runner
  | 0 => idle
  | n + 1 =>
    { steps := n
      word := fun s splits w => (ofSteps n).expand s splits w
      command := fun s c => (ofSteps n).runCommand s c
      chains := fun s cs => (ofSteps n).runChains s cs
      text := fun s t => (ofSteps n).runText s t
      image := fun s words => (ofSteps n).runImage s words }

end Runner

/-- How deep steps of a run may nest. -/
def maxSteps : Nat := Nat.pow 10 9

/-- Runs what a path leads to with the given environment, arguments and input. -/
def execute (d : Disk) (here : Location) (told : List (Bytes × Bytes)) (path : Text)
    (args : List Bytes) (input : Bytes) : Except Disk.Fault State := do
  let s := start (Host.attach programs d) here told input
  let r := Runner.ofSteps maxSteps
  let name := Bytes.ofText path
  let after ← match ← executable programs s.disk here path with
    | .program p => pure (r.runNamed s p name args)
    | .script content =>
      match interpreter? content with
      | none => .error .badFormat
      | some (interpreter, extra) =>
        match ← executable programs s.disk here interpreter.toText with
        | .program p => pure (r.runNamed s p interpreter (extra ++ name :: args))
        | .script _ => pure (r.runImage s (interpreter :: extra ++ name :: args))
  let final := r.finishJobs after
  let left := final.disk.entries.filter fun e => State.isReached e.1
  return final.setDisk (Host.detach programs d ⟨left⟩)

end Graft.Shell
