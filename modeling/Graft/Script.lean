import Graft.Script.Parser

/-!
# Scripts

A script is a file of an overlay under a parser. Searching it changes at most what the overlay has
read; injecting stages a new text, and only one that still parses.
-/
namespace Graft

/-- `unit` is the indentation of one level where the text shows none. -/
structure Script where
  path : Text
  parser : Parser
  unit : Text

namespace Script

inductive Kind where
  | document
  | block
  | statement
  deriving DecidableEq, Repr

/-- A node apart from its document. -/
structure Summary where
  kind : Kind
  name : Text
  span : Span
  line : Nat
  isEmptyInline : Bool
  deriving DecidableEq, Repr

def Summary.ofScope (source : Text) (s : Scope) : Summary where
  kind := if s.isDocument then .document else .block
  name := s.name
  span := s.span
  line := Position.lineOf source s.span.start
  isEmptyInline := s.isEmptyInline source

def Summary.ofNode (source : Text) : Node → Summary
  | .statement name span _ =>
    ⟨.statement, name, span, Position.lineOf source span.start, false⟩
  | .block name span _ braces children => ofScope source ⟨name, span, some braces, children⟩

/-- The document of the text as staged. -/
def document (s : Script) (d : Disk) (o : Overlay) : Except ScriptError Document × Overlay :=
  match s.parser.probe with
  | .error e => (.error e, o)
  | .ok () =>
    match o.read d s.path with
    | (.error f, o) => (.error (.overlay f), o)
    | (.ok source, o) => (s.parser.parse source, o)

/-- The nodes on the top level. -/
def outline (s : Script) (d : Disk) (o : Overlay) : Except ScriptError (List Summary) × Overlay :=
  let (document, o) := s.document d o
  (document.map fun doc => doc.nodes.map (.ofNode doc.source), o)

/-- The scopes a pattern selects. -/
def find (s : Script) (d : Disk) (o : Overlay) (pattern : Pattern) :
    Except ScriptError (List Summary) × Overlay :=
  match pattern.validate with
  | .error f => (.error (.pattern f), o)
  | .ok () =>
    let (document, o) := s.document d o
    (document.map fun doc => (doc.find pattern).map (.ofScope doc.source), o)

/-- The plan for a document and the text it gives. -/
def draft (s : Script) (doc : Document) (pattern : Pattern) (properties : List Property)
    (hash : Text → UInt64 := Digest.ofText) : Except ScriptError (Plan × Text) := do
  let plan ← (Plan.make doc pattern properties s.unit hash).mapError .ofPlan
  let text ← (Edit.apply doc.source plan.edits hash).mapError .edit
  return (plan, text)

/-- The plan for a document and the text it gives, if that text still parses. -/
def revise (s : Script) (doc : Document) (pattern : Pattern) (properties : List Property)
    (hash : Text → UInt64 := Digest.ofText) : Except ScriptError (Plan × Text) := do
  let (plan, text) ← s.draft doc pattern properties hash
  if plan.isNoop then return (plan, text)
  match s.parser.parse text with
  | .ok _ => return (plan, text)
  | .error (.malformed e) => .error (.spoiled s.path e)
  | .error e => .error e

/-- Stages the text with `properties` where `pattern` leads. -/
def inject (s : Script) (d : Disk) (o : Overlay) (pattern : Pattern) (properties : List Property)
    (hash : Text → UInt64 := Digest.ofText) : Except ScriptError Plan × Overlay :=
  match s.document d o with
  | (.error e, o) => (.error e, o)
  | (.ok doc, o) =>
    match s.revise doc pattern properties hash with
    | .error e => (.error e, o)
    | .ok (plan, text) =>
      if plan.isNoop then (.ok plan, o)
      else
        match o.write d s.path text with
        | (.error f, o) => (.error (.overlay f), o)
        | (.ok (), o) => (.ok plan, o)

/-! ## Traces on the disk -/

/-- The disk after the script has been parsed. -/
def traceReading (s : Script) (d : Disk) (o : Overlay) : Disk :=
  match s.parser.trace?, s.parser.probe, (o.read d s.path).1 with
  | some trace, .ok (), .ok source => trace d source
  | _, _, _ => d

/-- The disk after a search. -/
def traceFind (s : Script) (d : Disk) (o : Overlay) (pattern : Pattern) : Disk :=
  if pattern.validate.toBool then s.traceReading d o else d

/-- The disk after an injection, which parses the text before and after it. -/
def traceInject (s : Script) (d : Disk) (o : Overlay) (pattern : Pattern)
    (properties : List Property) (hash : Text → UInt64 := Digest.ofText) : Disk :=
  match s.parser.trace? with
  | none => d
  | some trace =>
    let d' := s.traceReading d o
    match (s.document d o).1.bind (s.draft · pattern properties hash) with
    | .ok (plan, text) => if plan.isNoop then d' else trace d' text
    | .error _ => d'

end Script
end Graft
