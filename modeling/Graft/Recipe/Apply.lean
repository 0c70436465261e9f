import Graft.Recipe
import Graft.Script

/-!
# Applying recipes

The operations of a recipe run one after another on an overlay. Each stages all of its change or
none of it. On the disk only a grammar helper can leave traces.
-/
namespace Graft.Recipe

/-- What became of an operation that did not fail. -/
inductive Outcome where
  | applied (file : Text) (placement : Plan.Placement) (created : List Text)
  | unchanged (file : Text)
  | skipped (failed : Text)
  deriving DecidableEq, Repr

private def placementText : Plan.Placement → String
  | .expandInline => "expanded empty block"
  | .appendBeforeClose => "appended to block"
  | .appendToDocument => "appended to file"

private def createdText (created : List Text) : String :=
  if created.isEmpty then "" else ", created " ++ String.ofList (Text.join " > ".toList created)

/-- Why an operation is skipped. -/
def skipReason (failed : Text) : String := s!"operation '{String.ofList failed}' failed"

def Outcome.message : Outcome → String
  | applied file placement created =>
    s!"Staged {String.ofList file} ({placementText placement}{createdText created})"
  | unchanged file => s!"Nothing to inject into {String.ofList file}"
  | skipped failed => s!"Skipped: {skipReason failed}"

/-- Why an operation failed. -/
inductive Failure where
  | invalid (id : Text) (flaw : Spec.Flaw)
  | script (file : Text) (error : ScriptError)
  deriving DecidableEq, Repr

def Failure.message : Failure → String
  | invalid id flaw => s!"operation '{String.ofList id}' is invalid: {flaw.message}"
  | script file e => s!"{String.ofList file}: {e.message}"

def Failure.isUnavailable : Failure → Bool
  | invalid .. => false
  | script _ e => e.isUnavailable

def Outcome.ofPlan (file : Text) (p : Plan) : Outcome :=
  match p.placement with
  | some placement => applied file placement p.created
  | none => unchanged file

/-- Runs one operation. -/
def Operation.apply (o : Operation) (parser : Parser) (unit : Text) (d : Disk) (overlay : Overlay) :
    Except Failure Outcome × Overlay :=
  match toProperties o.properties with
  | .error flaw => (.error (.invalid o.id flaw), overlay)
  | .ok properties =>
    match (Script.mk o.file parser unit).inject d overlay o.target properties with
    | (.error e, overlay) => (.error (.script o.file e), overlay)
    | (.ok plan, overlay) => (.ok (.ofPlan o.file plan), overlay)

/-- The disk after an operation. -/
def Operation.trace (o : Operation) (parser : Parser) (unit : Text) (d : Disk) (overlay : Overlay) :
    Disk :=
  match toProperties o.properties with
  | .error _ => d
  | .ok properties => (Script.mk o.file parser unit).traceInject d overlay o.target properties

/-- The result of an operation under its name. -/
abbrev Result := Text × Except Failure Outcome

/-- Runs operations in order. After a failure the others are skipped, unless `keepGoing`. -/
def applyAll (parser : Parser) (unit : Text) (keepGoing : Bool) :
    Disk → List Operation → Overlay → List Result × Overlay × Disk
  | d, [], overlay => ([], overlay, d)
  | d, o :: rest, before =>
    let (result, overlay) := o.apply parser unit d before
    let d := o.trace parser unit d before
    if result.toBool || keepGoing then
      let (results, after) := applyAll parser unit keepGoing d rest overlay
      ((o.id, result) :: results, after)
    else ((o.id, result) :: rest.map fun later => (later.id, .ok (.skipped o.id)), overlay, d)

/-- The parser that a choice means on a host. -/
def ParserChoice.parser (d : Disk) (base : Location) (home : Text) : ParserChoice → Parser
  | native => .native
  | helper program args => .ofHelper (.ofProgram d base home program args)

/-- The parser that each choice means on a disk, for a working directory and a home directory. -/
abbrev ParserOf := Disk → Location → Text → ParserChoice → Parser

/-- Runs all operations of a recipe. -/
def apply (r : Recipe) (keepGoing : Bool) (d : Disk) (base : Location) (home : Text)
    (overlay : Overlay) (parserOf : ParserOf := ParserChoice.parser) :
    List Result × Overlay × Disk :=
  applyAll (parserOf d base home r.parser) r.unit keepGoing d r.operations overlay

end Graft.Recipe
