import Graft.Command.Arguments
import Graft.Command.Step
import Graft.Diff.Hunk
import Graft.Recipe.Apply

/-!
# The apply command

Stages the operations of all recipes, shows what would change, and commits it if nothing failed and
the user agrees.
-/
namespace Graft.Command

/-- How many operations came to which end. -/
structure Tally where
  applied : Nat
  unchanged : Nat
  skipped : Nat
  failed : Nat
  deriving DecidableEq, Repr

def Tally.zero : Tally := ⟨0, 0, 0, 0⟩

def Tally.add (t : Tally) : Except Recipe.Failure Recipe.Outcome → Tally
  | .ok (.applied ..) => { t with applied := t.applied + 1 }
  | .ok (.unchanged _) => { t with unchanged := t.unchanged + 1 }
  | .ok (.skipped _) => { t with skipped := t.skipped + 1 }
  | .error _ => { t with failed := t.failed + 1 }

/-- The run so far. -/
structure Progress where
  overlay : Overlay
  disk : Disk
  tally : Tally
  printed : Printed

/-- Prints unless the user wants quiet. -/
def Printed.lineUnless (quiet : Bool) (p : Printed) (s : String) : Printed :=
  if quiet then p else p.line s

/-! ## Staging -/

def printResult (quiet : Bool) (p : Printed) (r : Recipe.Result) : Printed :=
  let id := String.ofList r.1
  match r.2 with
  | .ok o =>
    match o with
    | .applied .. => p.lineUnless quiet s!"✓ {id}: {o.message}"
    | .unchanged _ => p.lineUnless quiet s!"⊙ {id}: {o.message}"
    | .skipped _ => p.line s!"⊘ {id}: {o.message}"
  | .error f =>
    let p := p.errorLine s!"✗ {id}: Error - {f.message}"
    if f.isUnavailable then
      p.errorLine "  The configured grammar helper is not installed on this host"
    else p

def printOperation (r : Recipe) (p : Printed) (o : Recipe.Operation) : Printed :=
  let group := if r.name.isEmpty then "gradle" else String.ofList r.name
  p.line s!"{group} {String.ofList o.id} {String.ofList o.display}"

def printRecipe (quiet : Bool) (path : Text) (r : Recipe) (p : Printed) : Printed :=
  if quiet then p
  else
    r.operations.foldl (printOperation r)
      (p.line s!"Loading operations from {String.ofList path}...")

/-- Runs a recipe. -/
def stageRecipe (h : Host) (o : ApplyOptions) (path : Text) (r : Recipe) (s : Progress)
    (parserOf : Recipe.ParserOf := Recipe.ParserChoice.parser) : Progress :=
  let (results, overlay, disk) := r.apply o.keepGoing s.disk h.here h.home s.overlay parserOf
  let printed := results.foldl (printResult o.quiet) (printRecipe o.quiet path r s.printed)
  ⟨overlay, disk, results.foldl (fun t r => t.add r.2) s.tally, printed.lineUnless o.quiet ""⟩

/-- Some operation failed, and the user did not want to go on. -/
def Progress.isAborted (o : ApplyOptions) (s : Progress) : Bool := s.tally.failed > 0 && !o.keepGoing

/-- Runs recipes one after another. A recipe that cannot be loaded ends the run. -/
def stageAll (h : Host) (o : ApplyOptions)
    (parserOf : Recipe.ParserOf := Recipe.ParserChoice.parser) :
    List Text → Progress → Progress × Option Recipe.LoadError
  | [], s => (s, none)
  | path :: rest, s =>
    match Recipe.load s.disk h.here path with
    | .error e => (s, some e)
    | .ok r =>
      let s := stageRecipe h o path r s parserOf
      if s.isAborted o then (s, none) else stageAll h o parserOf rest s

/-! ## Preview -/

/-- A location as seen from the root of the project. -/
def shown (root l : Location) : String :=
  if l.isWithin root then String.ofList (Text.join ['/'] (l.drop root.length))
  else String.ofList l.display

def printChange (root : Location) (p : Printed) (c : Location × Overlay.Entry) : Printed :=
  let name := shown root c.1
  let p := ((p.line "").line s!"--- {name} (original)").line s!"+++ {name} (patched)"
  { p with output :=
      p.output ++ String.ofList (Diff.unified (c.2.saved.getD []) c.2.current) }

def preview (quiet : Bool) (root : Location) (changes : List (Location × Overlay.Entry))
    (p : Printed) : Printed :=
  if quiet || changes.isEmpty then p else (changes.foldl (printChange root) p).line ""

/-! ## Commit -/

def question : String :=
  "Apply changes?\nApplying these changes will modify your build scripts. " ++
    "Commit your work before continuing.\nApply? [y/N] "

def printTally (t : Tally) (p : Printed) : Printed :=
  [s!"  {t.applied} applied", s!"  {t.unchanged} unchanged", s!"  {t.skipped} skipped",
    s!"  {t.failed} failed"].foldl Printed.line (p.line "Summary:")

/-- The reply after the summary. -/
def conclude (t : Tally) (d : Disk) (p : Printed) : Reply :=
  ⟨if t.failed > 0 then 1 else 0, printTally t p, d⟩

/-- Commits what is staged. -/
def commit (root : Location) (s : Progress) : Reply :=
  match s.overlay.commit s.disk with
  | (.error f, _, d) => .fatal d s.printed (.ofOverlay f)
  | (.ok paths, _, d) =>
    conclude s.tally d (paths.foldl (fun p l => p.line s!"✓ wrote {shown root l}") s.printed)

/-- Goes on after all operations are staged. -/
def settle (o : ApplyOptions) (root : Location) (s : Progress) : Step :=
  let changes := s.overlay.staged
  let p := preview o.quiet root changes s.printed
  if s.isAborted o then
    .done (conclude s.tally s.disk (p.errorLine "Operation failed; no files were written"))
  else if changes.isEmpty then .done (conclude s.tally s.disk (p.line "Nothing to change"))
  else if o.dryRun then
    .done (conclude s.tally s.disk (p.line "[DRY RUN - no files were written]"))
  else if o.yes then .done (commit root { s with printed := p })
  else
    .ask { p with output := p.output ++ question } fun
      | .ok true => commit root { s with printed := .nothing }
      | .ok false =>
        conclude s.tally s.disk (Printed.nothing.line "Aborted; no files were written")
      | .error f => .fatal s.disk .nothing ⟨f.message, []⟩

/-- The root of the project, which has to exist. -/
def projectRoot (h : Host) (root : Option Text) : Except Fatal Location :=
  let path := root.getD h.here.display
  match h.disk.canonicalize h.here path with
  | .ok l => .ok l
  | .error f => .error ⟨s!"project root {String.ofList path} does not exist", [f.message]⟩

/-- The recipes of a project, at least one. -/
def projectRecipes (h : Host) (root : Location) : Except Fatal (List Text) :=
  match Recipe.discover h.disk h.here root.display with
  | [] =>
    let directory := Path.under root.display Recipe.directory
    .error ⟨s!"No .toml operation files found in {String.ofList directory}", []⟩
  | files => .ok files

def printProject (quiet : Bool) (root : Location) : Printed :=
  if quiet then .nothing
  else (Printed.nothing.line s!"Project: {String.ofList root.display}").line ""

/-- What the run begins with: the root, the recipes and an empty overlay. -/
def opening (h : Host) (o : ApplyOptions) : Except Fatal (Location × List Text × Overlay) := do
  let root ← projectRoot h o.root
  let files ← match o.config with
    | some path => .ok [path]
    | none => projectRecipes h root
  let overlay ← (Overlay.create h.disk h.here h.home root.display).mapError .ofOverlay
  return (root, files, overlay)

def runApply (h : Host) (o : ApplyOptions)
    (parserOf : Recipe.ParserOf := Recipe.ParserChoice.parser) : Step :=
  match opening h o with
  | .error e => .done (.fatal h.disk .nothing e)
  | .ok (root, files, overlay) =>
    match stageAll h o parserOf files ⟨overlay, h.disk, .zero, printProject o.quiet root⟩ with
    | (s, some e) => .done (.fatal s.disk s.printed (.ofLoad e))
    | (s, none) => settle o root s

end Graft.Command
