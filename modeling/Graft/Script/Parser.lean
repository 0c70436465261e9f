import Graft.Helper
import Graft.Overlay
import Graft.Plan
import Graft.Tree.Build

/-!
# Parsers of scripts

A parser turns the text of a script into a document, or says why not. One is built in; the others
run a grammar helper.
-/
namespace Graft

/-- Why a grammar helper cannot be started. -/
inductive Helper.Absence where
  | missing
  | fault (fault : Disk.Fault)
  deriving DecidableEq, Repr

def Helper.Absence.message : Helper.Absence → String
  | missing => "not found on PATH"
  | fault f => f.message

/-- Why work on a script fails. -/
inductive ScriptError where
  | malformed (error : SyntaxError)
  | unavailable (helper : Text) (absence : Helper.Absence)
  | helper (helper : Text) (failure : Helper.Failure)
  | pattern (flaw : Pattern.Flaw)
  | property (flaw : Property.Flaw)
  /-- The script would be malformed afterwards. -/
  | spoiled (path : Text) (error : SyntaxError)
  | edit (failure : Edit.Failure)
  | overlay (failure : Overlay.Failure)
  deriving DecidableEq, Repr

namespace ScriptError

def message : ScriptError → String
  | malformed e => e.message
  | unavailable h a => s!"grammar helper '{String.ofList h}' is unavailable: {a.message}"
  | helper h f => s!"grammar helper '{String.ofList h}' failed: {f.message}"
  | pattern f => s!"invalid pattern: {f.message}"
  | property f => f.message
  | spoiled path e => s!"injection would leave {String.ofList path} unparseable: {e.message}"
  | edit f => s!"edit error: {f.message}"
  | overlay f => s!"staged file error: {f.message}"

/-- The script itself is at fault. -/
def isMalformed : ScriptError → Bool
  | malformed _ => true
  | _ => false

/-- The host lacks a grammar helper. -/
def isUnavailable : ScriptError → Bool
  | unavailable .. => true
  | _ => false

def ofPlan : Plan.Failure → ScriptError
  | .pattern f => pattern f
  | .property f => property f

end ScriptError

/-- `probe` says whether the host can parse at all; `trace?` is what parsing leaves on the disk, if
it can change the disk. -/
structure Parser where
  probe : Except ScriptError Unit
  parse : Text → Except ScriptError Document
  trace? : Option (Disk → Text → Disk)

namespace Parser

def native : Parser :=
  ⟨.ok (), fun source => (Document.parse source).mapError .malformed, none⟩

/-- Parses by what a helper reports. -/
def parseWith (h : Helper) (source : Text) : Except ScriptError Document :=
  if !h.isPresent then .error (.unavailable h.name .missing)
  else
    match h.run source with
    | .error f => .error (.unavailable h.name (.fault f))
    | .ok outcome =>
      match Helper.report outcome with
      | .error f => .error (.helper h.name f)
      | .ok (.error offset message) =>
        .error (.malformed (.parse ⟨.reported message, Position.locate source offset⟩))
      | .ok (.tree nodes) =>
        (Outline.toDocument source nodes).mapError fun flaw => .helper h.name (.outline flaw)

def ofHelper (h : Helper) : Parser where
  probe := if h.isPresent then .ok () else .error (.unavailable h.name .missing)
  parse := parseWith h
  trace? := if h.isPresent then h.trace? else none

end Parser
end Graft
