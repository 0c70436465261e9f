import Graft.Text.Blank

/-!
# Properties

A property is what an injection adds to a script: one line of text or a block of properties.
-/
namespace Graft

/-- How a line of text is written. -/
inductive Property.Form where
  /-- `name value` -/
  | statement
  /-- `name: value` -/
  | property
  deriving DecidableEq, Repr

/-- A line with a name and a value, which is put in as it stands, or a named block. -/
inductive Property where
  | line (name value : Text) (form : Property.Form)
  | block (name : Text) (children : List Property)
  deriving Repr

namespace Property

def name : Property → Text
  | line n _ _ => n
  | block n _ => n

/-- What is wrong with a property. -/
inductive Defect where
  | emptyName
  | brokenName
  | emptyValue
  deriving DecidableEq, Repr

/-- A defect with the name of the property that has it. -/
structure Flaw where
  name : Text
  defect : Defect
  deriving DecidableEq, Repr

def Defect.message : Defect → String
  | emptyName => "name is empty"
  | brokenName => "name spans multiple lines"
  | emptyValue => "property form needs a value"

def Flaw.message (f : Flaw) : String :=
  s!"invalid property '{String.ofList f.name}': {f.defect.message}"

/-- A name has a character that is not blank, and no line feed. -/
def checkName (name : Text) : Except Flaw Unit :=
  if Text.isBlankText name then .error ⟨name, .emptyName⟩
  else if name.contains '\n' then .error ⟨name, .brokenName⟩
  else .ok ()

mutual

/-- Checks a property, then those in it, in order. -/
def validate : Property → Except Flaw Unit
  | line n value form => do
    checkName n
    if form = .property && Text.isBlankText value then .error ⟨n, .emptyValue⟩
    else .ok ()
  | block n children => do
    checkName n
    validateAll children

def validateAll : List Property → Except Flaw Unit
  | [] => .ok ()
  | p :: ps => do
    p.validate
    validateAll ps

end

/-- The text of a line, without indentation. -/
def lineText (name value : Text) : Form → Text
  | .statement => if value.isEmpty then name else name ++ ' ' :: value
  | .property => name ++ ':' :: ' ' :: value

mutual

/-- The lines of a property at the given indentation; inner levels add `unit`. -/
def render (indent unit : Text) : Property → List Text
  | line n value form => [indent ++ lineText n value form]
  | block n children =>
    (indent ++ n ++ [' ', '{']) :: renderAll (indent ++ unit) unit children ++ [indent ++ ['}']]

def renderAll (indent unit : Text) : List Property → List Text
  | [] => []
  | p :: ps => p.render indent unit ++ renderAll indent unit ps

end

/-- Blocks nested along a path around properties. -/
def nest : List Text → List Property → List Property
  | [], ps => ps
  | n :: ns, ps => [block n (nest ns ps)]

end Property
end Graft
