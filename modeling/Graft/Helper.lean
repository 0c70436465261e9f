import Graft.Data.Json.Read
import Graft.Helper.Outline
import Graft.Shell.Run
import Graft.Text.Blank

/-!
# Grammar helpers

A helper is a program that reads a script and prints its outline. Here is what is known of one
before it runs, and how the programs of a host are found and run.
-/
namespace Graft

/-- A helper under its name: whether the host has it, what it does with an input, and what a run
leaves on the disk, if it can change the disk at all. -/
structure Helper where
  name : Text
  isPresent : Bool
  run : Text → Except Disk.Fault Shell.Outcome
  trace? : Option (Disk → Text → Disk)

namespace Helper

/-- Why a helper gave no tree. -/
inductive Failure where
  | exited (ending : Shell.Ending) (errors : Text)
  | unreadable
  | outline (flaw : Outline.Flaw)
  deriving DecidableEq, Repr

/-- The end of a process in words. -/
def endingText : Shell.Ending → String
  | .exited status => s!"exit status: {status}"
  | .killed signal =>
    let name := match Shell.Signal.name? signal with
      | some n => s!" (SIG{n})"
      | none => ""
    s!"signal: {signal}{name}"

def Failure.message : Failure → String
  | exited ending errors => s!"exited with {endingText ending}: {String.ofList errors}"
  | unreadable => "unreadable output"
  | outline flaw => flaw.message

/-- The directories in which a host looks for programs. -/
def searchPath : List Text :=
  ["/usr/local/sbin", "/usr/local/bin", "/usr/sbin", "/usr/bin", "/sbin", "/bin"].map String.toList

/-- What a host tells its programs. -/
def environment (home : Text) : List (Bytes × Bytes) :=
  [("HOME".toList, .ofText home), ("PATH".toList, Text.join [':'] searchPath)]

/-- The path under which a program is run, if there is a file. A program without a directory is
looked for among the programs of the system, any other where its path leads. -/
def resolve? (d : Disk) (base : Location) (program : Text) : Option Text :=
  let path := Path.parse program
  let count := path.components.length + (if path.absolute then 1 else 0)
  let candidates := if count > 1 then [program] else searchPath.map (Path.under · program)
  candidates.find? ((Shell.Host.attach Shell.programs d).isFile base ·)

/-- Runs a program on a script. -/
def execute (d : Disk) (base : Location) (home path : Text) (args : List Text) (input : Text) :
    Except Disk.Fault Shell.State :=
  if args.any (·.contains '\x00') then .error .nulInArgument
  else
    Shell.execute d base (environment home) path (args.map Bytes.ofText) (.ofText input)

/-- A program of the host as a helper. -/
def ofProgram (d : Disk) (base : Location) (home program : Text) (args : List Text) : Helper :=
  let path := resolve? d base program
  { name := program
    isPresent := path.isSome
    run := fun input => do
      return Shell.outcome (← execute d base home (path.getD program) args input)
    trace? := some fun d input =>
      match path.map fun p => execute d base home p args input with
      | some (.ok s) => s.disk
      | _ => d }

/-- A helper that leaves the same outcome whatever it reads. -/
def constant (name : Text) (status : Nat) (output errors : Text) : Helper where
  name := name
  isPresent := true
  run := fun _ => .ok ⟨.exited (status % 256), .ofText output, .ofText errors⟩
  trace? := none

/-- What the outcome of a helper says about a script. -/
def report (outcome : Shell.Outcome) : Except Failure Outline.Report :=
  if outcome.ending ≠ .exited 0 && outcome.output.isEmpty then
    .error (.exited outcome.ending (Text.trim outcome.errors.toText))
  else
    match (outcome.output.toText?.bind Json.parse?).bind Outline.report? with
    | some r => .ok r
    | none => .error .unreadable

end Helper
end Graft
