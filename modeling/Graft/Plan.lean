import Graft.Edit
import Graft.Pattern
import Graft.Property
import Graft.Tree

/-!
# Injection plans

A plan says how properties get into a document: the scope they go to, the blocks that have to be
made first, and the edit. The new lines follow the layout around them, that is its indentation and
its line ends.
-/
namespace Graft

/-- How the new lines are set into their scope. -/
inductive Plan.Placement where
  /-- The braces of an empty block on one line are drawn apart. -/
  | expandInline
  /-- The lines go before the closing brace. -/
  | appendBeforeClose
  /-- The lines go to the end of the document. -/
  | appendToDocument
  deriving DecidableEq, Repr

/-- What an injection does. `created` names the blocks that did not exist, outermost first. -/
structure Plan where
  edits : List Edit
  placement : Option Plan.Placement
  created : List Text
  deriving DecidableEq, Repr

namespace Plan

/-- The indentation of one level where the script shows none. -/
def defaultUnit : Text := [' ', ' ', ' ', ' ']

/-- Nothing changes. -/
def isNoop (p : Plan) : Bool := p.edits.isEmpty

/-- Why an injection cannot be planned. -/
inductive Failure where
  | pattern (flaw : Pattern.Flaw)
  | property (flaw : Property.Flaw)
  deriving DecidableEq, Repr

/-! ## Target -/

/-- The first scope found along the longest beginning of `chain` that leads anywhere, of at most
`depth` names, and the names that are left. -/
def deepest (d : Document) (chain : List Text) : Nat → Scope × List Text
  | 0 => (d.root, chain)
  | depth + 1 =>
    match d.find (.ofPath (chain.take (depth + 1))) with
    | s :: _ => (s, chain.drop (depth + 1))
    | [] => deepest d chain depth

/-- The scope an injection goes to and the names still to be made inside it. -/
def target (d : Document) (chain : List Text) : Scope × List Text :=
  deepest d chain chain.length

/-! ## Layout -/

/-- The line end of a script is that of its first line. -/
def lineEnd (source : Text) : Text :=
  if source.contains '\n' then
    if (source.takeWhile (· ≠ '\n')).getLast? = some '\r' then ['\r', '\n'] else ['\n']
  else ['\n']

/-- The indentation of the line a scope begins on; the document has none. -/
def scopeIndent (source : Text) (s : Scope) : Text :=
  if s.isDocument then [] else source.lineIndent s.span.start

/-- The indentations of the nodes in a scope that begin a line. -/
def childIndents (source : Text) (s : Scope) : List Text :=
  (s.children.filter fun n => source.startsLine n.span.start).map fun n =>
    source.lineIndent n.span.start

/-- What the first deeper node of a scope adds to the indentation of the scope. -/
def unitOf? (source : Text) (s : Scope) : Option Text :=
  let own := scopeIndent source s
  let deeper (indent : Text) : Bool := indent.length > own.length && own.isPrefixOf indent
  ((childIndents source s).find? deeper).map (·.drop own.length)

/-- The indentation of one level: as in the target, else as in the first block that shows it. -/
def unit (d : Document) (target : Scope) (fallback : Text) : Text :=
  let blocks := d.root.walk.filter fun s => !s.isDocument
  (unitOf? d.source target <|> blocks.findSome? (unitOf? d.source)).getD fallback

/-- Lines, each with its end. -/
def unlines (eol : Text) (ls : List Text) : Text := ls.flatMap (· ++ eol)

/-! ## Edits -/

def expandInline (source : Text) (target : Scope) (b : Braces) (items : List Property)
    (unit eol : Text) (hash : Text → UInt64 := Digest.ofText) : Edit :=
  let indent := source.lineIndent target.span.start
  let lines := Property.renderAll (indent ++ unit) unit items
  Edit.replace b.opening (b.closing + 1) (['{'] ++ eol ++ unlines eol lines ++ indent ++ ['}'])
    (source.slice b.opening (b.closing + 1)) hash

def appendBeforeClose (source : Text) (target : Scope) (b : Braces) (items : List Property)
    (unit eol : Text) (hash : Text → UInt64 := Digest.ofText) : Edit :=
  let indent := source.lineIndent target.span.start
  let inner := (childIndents source target).getLast?.getD (indent ++ unit)
  let lines := Property.renderAll inner unit items
  let closeLine := source.lineStart b.closing
  if closeLine > b.opening && source.startsLine b.closing then
    Edit.insertion closeLine (unlines eol lines)
  else
    let gap := ((source.takeBytes b.closing).reverse.takeWhile Text.isIndent).reverse
    Edit.replace (b.closing - Text.size gap) b.closing (eol ++ Text.join eol lines ++ eol ++
      indent) gap hash

def appendToDocument (source : Text) (items : List Property) (unit eol : Text) : Edit :=
  let lines := Text.join eol (Property.renderAll [] unit items)
  match source.getLast? with
  | none | some '\n' => Edit.insertion source.size (lines ++ eol)
  | some _ => Edit.insertion source.size (eol ++ lines)

/-- The edit that sets items into a scope, and how it does so. -/
def place (source : Text) (target : Scope) (items : List Property) (unit eol : Text)
    (hash : Text → UInt64 := Digest.ofText) : Edit × Placement :=
  match target.braces with
  | none => (appendToDocument source items unit eol, .appendToDocument)
  | some b =>
    if target.isEmptyInline source then
      (expandInline source target b items unit eol hash, .expandInline)
    else (appendBeforeClose source target b items unit eol hash, .appendBeforeClose)

/-- Plans the injection of `properties` where `pattern` leads. -/
def make (d : Document) (pattern : Pattern) (properties : List Property) (fallback : Text)
    (hash : Text → UInt64 := Digest.ofText) : Except Failure Plan := do
  pattern.validate.mapError .pattern
  let chain ← pattern.chain.mapError .pattern
  (Property.validateAll properties).mapError .property
  let (target, missing) := target d chain
  let items := Property.nest missing properties
  if items.isEmpty then return ⟨[], none, missing⟩
  let (edit, placement) := place d.source target items (unit d target fallback) (lineEnd d.source)
    hash
  return ⟨[edit], some placement, missing⟩

end Plan
end Graft
