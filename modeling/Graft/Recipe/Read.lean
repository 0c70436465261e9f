import Graft.Data.Toml.Read
import Graft.Disk
import Graft.Pattern.Data
import Graft.Recipe.Check

/-!
# Reading recipes

Recipes are written in TOML and lie in one directory of a project. Unknown fields are ignored.
-/
namespace Graft.Recipe

def formWords : List (Text × Property.Form) :=
  [("statement".toList, .statement), ("property".toList, .property)]

def form? (n : Data.Dialect) (d : Data) : Option Property.Form := do
  let (word, contents) ← d.alternative?
  if contents.all n.isNothing then formWords.lookup word else none

def specFields : List Text := ["name", "value", "form", "block"].map String.toList

/-- A property as written; `depth` bounds its nesting. -/
def spec? (n : Data.Dialect) : Nat → Data → Option Spec
  | 0, _ => none
  | depth + 1, d => do
    match ← d.record? (!n.allowsSurplus) specFields with
    | [some name, value, form, block] =>
      let children (b : Data) : Option (List Spec) := do (← b.array?).mapM (spec? n depth)
      return .mk (← name.string?) (← Data.optional Data.string? value)
        (← Data.optional (form? n) form) (← Data.optional children block)
    | _ => none

def Spec.ofData? (n : Data.Dialect) (d : Data) : Option Spec := spec? n d.depth d

def parserChoice? (n : Data.Dialect) (d : Data) : Option ParserChoice := do
  let (word, contents) ← d.alternative?
  if word = "native".toList then
    if contents.all n.isNothing then some .native else none
  else if word = "external".toList then
    match ← (← contents).contents? n ["program".toList, "args".toList] with
    | [some program, args] =>
      return .helper (← program.string?) (← Data.orElse [] Data.strings? args)
    | _ => none
  else none

def operationFields : List Text :=
  ["id", "file", "description", "target", "properties"].map String.toList

def operation? (n : Data.Dialect) (d : Data) : Option Operation := do
  match ← d.record? (!n.allowsSurplus) operationFields with
  | [some id, some file, description, target, properties] =>
    let specs (p : Data) : Option (List Spec) := do (← p.array?).mapM (Spec.ofData? n)
    return ⟨← id.string?, ← file.string?, ← Data.optional Data.string? description,
      ← Data.orElse .leaf Pattern.ofData? target, ← Data.orElse [] specs properties⟩
  | _ => none

def metaFields : List Text := ["name", "description", "indent", "parser"].map String.toList

/-- A recipe from its settings and its operations. -/
def ofParts? (n : Data.Dialect) (settings operations : Option Data) : Option Recipe := do
  let list (d : Data) : Option (List Operation) := do (← d.array?).mapM (operation? n)
  match ← (settings.getD (.object [])).record? (!n.allowsSurplus) metaFields with
  | [name, description, indent, parser] =>
    return ⟨← Data.orElse [] Data.string? name, ← Data.optional Data.string? description,
      ← Data.optional Data.string? indent, ← Data.orElse .native (parserChoice? n) parser,
      ← Data.orElse [] list operations⟩
  | _ => none

def ofData? (n : Data.Dialect) (d : Data) : Option Recipe := do
  match ← d.record? (!n.allowsSurplus) ["meta".toList, "operations".toList] with
  | [settings, operations] => ofParts? n settings operations
  | _ => none

/-- Why a recipe cannot be loaded; `path` is the file, if it came from one. -/
inductive LoadError where
  | unreadable (path : Text) (fault : Disk.Fault)
  | malformed (path : Option Text)
  | invalid (path : Option Text) (issues : List Issue)
  deriving DecidableEq, Repr

private def inFile : Option Text → String
  | some path => s!" ({String.ofList path})"
  | none => ""

def LoadError.message : LoadError → String
  | unreadable path f => s!"failed to read operation file {String.ofList path}: {f.message}"
  | malformed path => s!"failed to parse operation file TOML{inFile path}: "
  | invalid path is => s!"invalid operation file{inFile path}: {issuesMessage is}"

/-- The errors behind an error. -/
def LoadError.causes : LoadError → List String
  | unreadable _ f => [f.message]
  | malformed _ => []
  | invalid _ is => [issuesMessage is]

/-- Reads a recipe that has no issues. -/
def parse (path : Option Text) (t : Text) : Except LoadError Recipe :=
  match (Toml.parse? t).bind (ofData? Data.tomlDialect) with
  | none => .error (.malformed path)
  | some r => if r.issues.isEmpty then .ok r else .error (.invalid path r.issues)

/-- Loads a recipe from a file. -/
def load (d : Disk) (base : Location) (path : Text) : Except LoadError Recipe :=
  match d.readText base path with
  | .error f => .error (.unreadable path f)
  | .ok t => parse (some path) t

/-- The directory of a project that holds its recipes. -/
def directory : Text := "gradle-patches".toList

/-- The recipes of a project, by name. -/
def discover (d : Disk) (base : Location) (root : Text) : List Text :=
  let dir := Path.under root directory
  match d.reach base dir with
  | .error _ => []
  | .ok l =>
    if !d.isDirectory l then []
    else
      let isRecipe : Text × Disk.Item → Bool
        | (name, .file ..) => Path.extension? name == some "toml".toList
        | _ => false
      let names := ((d.list l).filter isRecipe).map (·.1)
      (names.mergeSort fun a b => Location.compareText a b != .gt).map (Path.under dir)

end Graft.Recipe
