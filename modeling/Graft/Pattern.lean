import Graft.Text.Blank
import Graft.Tree

/-!
# Patterns

A pattern is a tree of block names. It selects the blocks that its paths from the root to a leaf
lead to; the empty pattern selects the document. The names of a level are distinct and keep the
order in which they were first added.
-/
namespace Graft

/-- The names of one level with the pattern below each. -/
inductive Pattern where
  | leaf
  | entry (name : Text) (below : Pattern) (others : Pattern)
  deriving DecidableEq, Repr

namespace Pattern

def isLeaf : Pattern → Bool
  | leaf => true
  | entry .. => false

/-- The names of the level with what is below them, in order. -/
def entries : Pattern → List (Text × Pattern)
  | leaf => []
  | entry n below others => (n, below) :: others.entries

/-- How many names the level has. -/
def width (p : Pattern) : Nat := p.entries.length

/-- What is below a name. -/
def get? (name : Text) : Pattern → Option Pattern
  | leaf => none
  | entry n below others => if n = name then some below else others.get? name

/-- Puts a pattern below a name. A name that is there already keeps its place. -/
def insert (name : Text) (below : Pattern) : Pattern → Pattern
  | leaf => entry name below leaf
  | entry n b others =>
    if n = name then entry n below others else entry n b (insert name below others)

/-- The pattern with one path. -/
def ofPath : List Text → Pattern
  | [] => leaf
  | n :: ns => entry n (ofPath ns) leaf

/-- Why a pattern cannot be used. -/
inductive Flaw where
  | emptyName
  | blankInName (name : Text)
  /-- Injection needs one path. -/
  | forked (names depth : Nat)
  deriving DecidableEq, Repr

def Flaw.message : Flaw → String
  | emptyName => "empty block name"
  | blankInName name => s!"block name '{String.ofList name}' contains whitespace"
  | forked names depth =>
    s!"injection needs a single path, found {names} names at depth {depth}"

/-- A name that can stand for a block has characters, and none of them is blank. -/
def checkName (name : Text) : Except Flaw Unit :=
  if Text.isBlankText name then .error .emptyName
  else if name.any Text.isBlank then .error (.blankInName name)
  else .ok ()

/-- Checks every name, each before those below it. -/
def validate : Pattern → Except Flaw Unit
  | leaf => .ok ()
  | entry n below others => do
    checkName n
    below.validate
    others.validate

/-- The path of a pattern that has only one, `depth` levels down. -/
def chainFrom (depth : Nat) : Pattern → Except Flaw (List Text)
  | leaf => .ok []
  | entry n below others =>
    if others.isLeaf then (below.chainFrom (depth + 1)).map (n :: ·)
    else .error (.forked (others.width + 1) depth)

/-- The path of a pattern that has only one, outermost name first. -/
def chain (p : Pattern) : Except Flaw (List Text) := p.chainFrom 0

/-- The level without the braces around it. -/
def displayEntries : Pattern → Text
  | leaf => []
  | entry n below others =>
    let item := n ++ ':' :: ' ' :: '{' :: below.displayEntries ++ ['}']
    if others.isLeaf then item else item ++ ',' :: ' ' :: others.displayEntries

def display (p : Pattern) : Text := '{' :: p.displayEntries ++ ['}']

end Pattern

mutual

/-- The scopes that a pattern selects inside a node. -/
def Node.select (p : Pattern) : Node → List Scope
  | .statement .. => []
  | .block n s _ b cs =>
    match p.get? n with
    | none => []
    | some .leaf => [⟨n, s, some b, cs⟩]
    | some below => Node.selectAll below cs

/-- The scopes that a pattern selects inside a list of nodes, in source order. -/
def Node.selectAll (p : Pattern) : List Node → List Scope
  | [] => []
  | n :: ns => Node.select p n ++ Node.selectAll p ns

end

/-- The scopes that a pattern selects, in source order. -/
def Document.find (d : Document) (p : Pattern) : List Scope :=
  match p with
  | .leaf => [d.root]
  | p => Node.selectAll p d.nodes

end Graft
