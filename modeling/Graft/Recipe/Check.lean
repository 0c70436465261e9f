import Graft.Recipe
import Graft.Text.Blank

/-!
# Checking recipes

A recipe is valid if it has no issues. The issues are found without looking at any script.
-/
namespace Graft.Recipe

/-- A field that has to be given. -/
inductive Field where
  | id
  | file
  | properties
  deriving DecidableEq, Repr

def Field.word : Field → String
  | id => "id"
  | file => "file"
  | properties => "properties"

/-- What is wrong with a setting. -/
inductive Defect where
  | indent
  | target (flaw : Pattern.Flaw)
  | property (flaw : Spec.Flaw)
  deriving DecidableEq, Repr

def Defect.message : Defect → String
  | indent => "meta.indent must be non-empty spaces or tabs"
  | target f => s!"target: invalid pattern: {f.message}"
  | property f => f.message

/-- What is wrong with a recipe; `id` names the operation, if it has a name. -/
inductive Issue where
  | noOperations
  | missing (id : Option Text) (field : Field)
  | invalid (id : Option Text) (defect : Defect)
  deriving DecidableEq, Repr

def Issue.message : Issue → String
  | noOperations => "operation file contains no operations"
  | missing (some id) field =>
    s!"operation '{String.ofList id}' missing required field '{field.word}'"
  | missing none field => s!"operation missing required field '{field.word}'"
  | invalid (some id) defect =>
    s!"operation '{String.ofList id}' has invalid configuration: {defect.message}"
  | invalid none defect => s!"invalid operation configuration: {defect.message}"

/-- Why a target leads to no single place. -/
def targetFlaw? (p : Pattern) : Option Pattern.Flaw :=
  match p.validate with
  | .error f => some f
  | .ok () =>
    match p.chain with
    | .error f => some f
    | .ok _ => none

def specFlaw? (s : Spec) : Option Spec.Flaw :=
  match s.toProperty with
  | .error f => some f
  | .ok _ => none

def Operation.issues (o : Operation) : List Issue :=
  (if Text.isBlankText o.id then [.missing none .id] else []) ++
  (if Text.isBlankText o.file then [.missing (some o.id) .file] else []) ++
  ((targetFlaw? o.target).map fun f => .invalid (some o.id) (.target f)).toList ++
  (if o.properties.isEmpty then [.missing (some o.id) .properties] else []) ++
  (o.properties.filterMap specFlaw?).map fun f => .invalid (some o.id) (.property f)

/-- An indentation that can be used: spaces and tabs, and not nothing. -/
def isIndentUnit (t : Text) : Bool := !t.isEmpty && t.all Text.isIndent

def issues (r : Recipe) : List Issue :=
  (if r.operations.isEmpty then [.noOperations] else []) ++
  (if r.indent.all isIndentUnit then [] else [.invalid none .indent]) ++
  r.operations.flatMap Operation.issues

/-- Issues, one a line. -/
def issuesMessage (is : List Issue) : String := String.intercalate "\n" (is.map Issue.message)

end Graft.Recipe
