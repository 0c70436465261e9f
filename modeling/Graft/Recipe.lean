import Graft.Path
import Graft.Pattern
import Graft.Plan
import Graft.Property

/-!
# Recipes

A recipe lists operations on build scripts. An operation names a script, a place in it and the
properties to inject there, as their author wrote them down; `Spec.toProperty` says what is meant.
-/
namespace Graft

/-- The parser that a recipe asks for. -/
inductive Recipe.ParserChoice where
  | native
  | helper (program : Text) (args : List Text)
  deriving DecidableEq, Repr

/-- A property as written: a value with its form, a block, or a bare name. -/
inductive Recipe.Spec where
  | mk (name : Text) (value : Option Text) (form : Option Property.Form)
      (block : Option (List Recipe.Spec))
  deriving Repr

structure Recipe.Operation where
  id : Text
  file : Text
  description : Option Text
  target : Pattern
  properties : List Recipe.Spec
  deriving Repr

/-- `indent` is the indentation of one level for scripts that show none. -/
structure Recipe where
  name : Text
  description : Option Text
  indent : Option Text
  parser : Recipe.ParserChoice
  operations : List Recipe.Operation
  deriving Repr

namespace Recipe

/-- Why a property as written has no meaning. -/
inductive Spec.Flaw where
  | valueAndBlock (name : Text)
  | formAlone (name : Text)
  | formMissing (name : Text)
  | invalid (flaw : Property.Flaw)
  deriving DecidableEq, Repr

def Spec.Flaw.message : Spec.Flaw → String
  | valueAndBlock n => s!"property '{String.ofList n}' has both `value` and `block`"
  | formAlone n => s!"property '{String.ofList n}' has `form` without `value`"
  | formMissing n =>
    s!"property '{String.ofList n}' needs `form = \"statement\"` or `form = \"property\"`"
  | invalid f => f.message

def Spec.name : Spec → Text
  | mk name .. => name

/-- The property if it is valid. -/
def validated (p : Property) : Except Spec.Flaw Property :=
  match p.validate with
  | .ok () => .ok p
  | .error f => .error (.invalid f)

mutual

/-- The property that is meant. -/
def Spec.toProperty : Spec → Except Spec.Flaw Property
  | .mk n (some _) _ (some _) => .error (.valueAndBlock n)
  | .mk n none (some _) _ => .error (.formAlone n)
  | .mk n (some _) none none => .error (.formMissing n)
  | .mk n (some v) (some form) none => validated (.line n v form)
  | .mk n none none (some children) => do validated (.block n (← toProperties children))
  | .mk n none none none => validated (.line n [] .statement)

/-- The properties that are meant, if all of them have a meaning. -/
def toProperties : List Spec → Except Spec.Flaw (List Property)
  | [] => .ok []
  | s :: rest => do
    let p ← s.toProperty
    return p :: (← toProperties rest)

end

/-- One line about an operation. -/
def Operation.display (o : Operation) : Text :=
  match o.description with
  | some d => d
  | none =>
    "inject ".toList ++ Text.join ", ".toList (o.properties.map Spec.name) ++ " into ".toList ++
      o.target.display

/-- The indentation of one level for scripts that show none. -/
def unit (r : Recipe) : Text := r.indent.getD Plan.defaultUnit

/-- Keeps the first of the paths that name the same file. -/
def distinctPaths : List Text → List Text
  | [] => []
  | p :: rest => p :: (distinctPaths rest).filter fun q => !Path.same q p

/-- The scripts a recipe touches. -/
def files (r : Recipe) : List Text := distinctPaths (r.operations.map (·.file))

end Recipe
end Graft
