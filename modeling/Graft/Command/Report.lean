import Graft.Recipe.Read
import Graft.Script.Parser

/-!
# Reports

What a command prints, and how it reports the error that ends it.
-/
namespace Graft.Command

/-- What has been printed, to the standard output and for errors. -/
structure Printed where
  output : String
  errors : String
  deriving DecidableEq, Repr

namespace Printed

def nothing : Printed := ⟨"", ""⟩

def line (p : Printed) (s : String) : Printed := { p with output := p.output ++ s ++ "\n" }

def errorLine (p : Printed) (s : String) : Printed := { p with errors := p.errors ++ s ++ "\n" }

def append (p q : Printed) : Printed := ⟨p.output ++ q.output, p.errors ++ q.errors⟩

end Printed

/-- An error that ends a command, and the errors behind it. -/
structure Fatal where
  message : String
  causes : List String
  deriving DecidableEq, Repr

/-- The errors behind an error of the overlay. -/
def overlayCauses : Overlay.Failure → List String
  | .fault _ f => [f.message]
  | .refused (.unresolved f) => [f.message]
  | _ => []

def Fatal.ofOverlay (f : Overlay.Failure) : Fatal := ⟨f.message, overlayCauses f⟩

def Fatal.ofScript (e : ScriptError) : Fatal :=
  match e with
  | .edit f => ⟨e.message, [f.message]⟩
  | .overlay f => ⟨e.message, f.message :: overlayCauses f⟩
  | _ => ⟨e.message, []⟩

def Fatal.ofLoad (e : Recipe.LoadError) : Fatal := ⟨e.message, e.causes⟩

/-- A text whose first line follows `first` and whose other lines follow `others`. -/
private def indented (first others s : String) : String :=
  first ++ String.intercalate ("\n" ++ others) (s.splitOn "\n")

/-- A number in front of a cause. -/
private def numbered (i : Nat) : String :=
  let digits := toString i
  "".pushn ' ' (5 - digits.length) ++ digits ++ ": "

/-- The causes, numbered if there are several. -/
private def causeLines : List String → List String
  | [cause] => [indented "    " "    " cause]
  | causes => causes.zipIdx.map fun (cause, i) => indented (numbered i) "       " cause

def Fatal.report (e : Fatal) : String :=
  let causes := causeLines e.causes
  let behind := if causes.isEmpty then [] else "" :: "Caused by:" :: causes
  String.intercalate "\n" (("Error: " ++ e.message) :: behind)

end Graft.Command
