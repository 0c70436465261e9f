import Graft.Command.Apply
import Graft.Data.Json.Write
import Graft.Pattern.Data
import Graft.Script.Data

/-!
# Commands

The commands of the program, as functions from the host they run on to their reply.
-/
namespace Graft.Command

/-- The script that a command looks at, and an overlay for the working directory. -/
def openScript (h : Host) (file : Text) (helper : Option Text) :
    Except Fatal (Script × Overlay) := do
  let overlay ← (Overlay.create h.disk h.here h.home h.here.display).mapError .ofOverlay
  let parser := match helper with
    | some program => .ofHelper (.ofProgram h.disk h.here h.home program [])
    | none => .native
  return (⟨file, parser, Plan.defaultUnit⟩, overlay)

/-- Prints the scopes that a pattern selects. -/
def runFind (h : Host) (file pattern : Text) (helper : Option Text) : Reply :=
  match Pattern.parse? pattern with
  | none => .fatal h.disk .nothing ⟨"pattern must be a JSON object of objects", []⟩
  | some pattern =>
    match openScript h file helper with
    | .error e => .fatal h.disk .nothing e
    | .ok (script, overlay) =>
      let disk := script.traceFind h.disk overlay pattern
      match (script.find h.disk overlay pattern).1 with
      | .error e => .fatal disk .nothing (.ofScript e)
      | .ok found =>
        let shown := String.ofList (Json.pretty (.array (found.map (·.toData))))
        ⟨0, Printed.nothing.line shown, disk⟩

private def padLeft (width : Nat) (s : String) : String := "".pushn ' ' (width - s.length) ++ s

private def padRight (width : Nat) (s : String) : String := s.pushn ' ' (width - s.length)

def outlineLine (s : Script.Summary) : String :=
  let line := padLeft 4 (toString s.line)
  let kind := padRight 9 s.kind.word
  s!"  {line}  {kind} {String.ofList s.name}"

/-- Says whether a script can be parsed, and what stands on its top level. -/
def runCheck (h : Host) (file : Text) (helper : Option Text) (quiet : Bool) : Reply :=
  match openScript h file helper with
  | .error e => .fatal h.disk .nothing e
  | .ok (script, overlay) =>
    let disk := script.traceReading h.disk overlay
    match (script.outline h.disk overlay).1 with
    | .ok outline =>
      let p := Printed.nothing.line s!"✓ {String.ofList file} parses"
      let lines := if quiet then [] else outline.map outlineLine
      ⟨0, lines.foldl Printed.line p, disk⟩
    | .error e =>
      if e.isUnavailable then ⟨2, Printed.nothing.errorLine s!"⊘ {e.message}", disk⟩
      else if e.isMalformed then
        ⟨1, Printed.nothing.errorLine s!"✗ {String.ofList file}: {e.message}", disk⟩
      else .fatal disk .nothing (.ofScript e)

def printListed (path : Text) (r : Recipe) (p : Printed) : Printed :=
  let path := String.ofList path
  let title := if r.name.isEmpty then path else s!"{String.ofList r.name} ({path})"
  let operation (o : Recipe.Operation) : String :=
    s!"  - {String.ofList o.id} [{String.ofList o.file}] {String.ofList o.display}"
  let lines := title :: (r.description.map fun d => "  " ++ String.ofList d).toList ++
    r.operations.map operation ++ [""]
  lines.foldl Printed.line p

def listAll (h : Host) : List Text → Printed → Reply
  | [], p => ⟨0, p, h.disk⟩
  | path :: rest, p =>
    match Recipe.load h.disk h.here path with
    | .error e => .fatal h.disk p (.ofLoad e)
    | .ok r => listAll h rest (printListed path r p)

/-- Prints the operations of a project. -/
def runList (h : Host) (root : Option Text) : Reply :=
  match projectRoot h root >>= projectRecipes h with
  | .error e => .fatal h.disk .nothing e
  | .ok files => listAll h files .nothing

def versionLine : String := "gradle-patcher 0.1.0"

def usage : String :=
  "Usage: gradle-patcher [-v] [-q] <COMMAND>\n\n" ++
  "Commands:\n" ++
  "  apply  [-c FILE] [-r DIR] [-n] [-y] [--keep-going]\n" ++
  "  find   -f FILE [-p PATTERN] [--helper PROGRAM]\n" ++
  "  check  -f FILE [--helper PROGRAM]\n" ++
  "  list   [-r DIR]"

def start (h : Host) : Command → Step
  | apply o => runApply h o
  | find file pattern helper => .done (runFind h file pattern helper)
  | check file helper quiet => .done (runCheck h file helper quiet)
  | list root => .done (runList h root)
  | version => .done ⟨0, Printed.nothing.line versionLine, h.disk⟩
  | help => .done ⟨0, Printed.nothing.line usage, h.disk⟩

/-- Runs a command on an input. -/
def run (h : Host) (c : Command) (input : Text) : Reply := (c.start h).run (.ok input)

end Graft.Command
