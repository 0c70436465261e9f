import Graft.Text.Blank
import Graft.Token

/-!
# Span trees

A script is a sequence of statements and blocks; a block holds such a sequence between its braces.
Nodes carry no text of their own: they say where in the source a thing stands. A scope is a place
that holds nodes, either the whole document or the inside of a block.
-/
namespace Graft

/-- Offsets of a block's `{` and `}`. -/
structure Braces where
  opening : Nat
  closing : Nat
  deriving DecidableEq, Repr

/-- A statement, which spans its name through its last argument, or a block, which spans its name
through its closing brace. Tokens leave out trivia and line feeds. -/
inductive Node where
  | statement (name : Text) (span : Span) (arguments : List Token)
  | block (name : Text) (span : Span) (header : List Token) (braces : Braces)
      (children : List Node)
  deriving Repr

namespace Node

def name : Node → Text
  | statement n _ _ => n
  | block n _ _ _ _ => n

def span : Node → Span
  | statement _ s _ => s
  | block _ s _ _ _ => s

end Node

/-- A place that holds nodes. The document has no braces and no name. -/
structure Scope where
  name : Text
  span : Span
  braces : Option Braces
  children : List Node
  deriving Repr

/-- The inside of a block. -/
def Node.scope? : Node → Option Scope
  | .statement .. => none
  | .block n s _ b cs => some ⟨n, s, some b, cs⟩

namespace Scope

def isDocument (s : Scope) : Bool := s.braces.isNone

/-- The scopes of the blocks right inside, in source order. -/
def blocks (s : Scope) : List Scope := s.children.filterMap Node.scope?

/-- Both braces stand on one line with nothing but blanks between them. -/
def isEmptyInline (source : Text) (s : Scope) : Bool :=
  match s.braces with
  | none => false
  | some b =>
    let inner := source.slice (b.opening + 1) b.closing
    s.children.isEmpty && !inner.contains '\n' && Text.isBlankText inner

end Scope

mutual

/-- The scopes in a node, outer before inner, in source order. -/
def Node.scopes : Node → List Scope
  | .statement .. => []
  | .block n s _ b cs => ⟨n, s, some b, cs⟩ :: Node.scopesOf cs

/-- The scopes in a list of nodes. -/
def Node.scopesOf : List Node → List Scope
  | [] => []
  | n :: ns => Node.scopes n ++ Node.scopesOf ns

end

/-- A scope and every scope in it, outer before inner, in source order. -/
def Scope.walk (s : Scope) : List Scope := s :: Node.scopesOf s.children

/-- A script with its span tree. -/
structure Document where
  source : Text
  nodes : List Node
  deriving Repr

namespace Document

def root (d : Document) : Scope := ⟨[], ⟨0, d.source.size⟩, none, d.nodes⟩

/-- The part of the source a span covers. -/
def text (d : Document) (s : Span) : Text := d.source.slice s.start s.stop

end Document
end Graft
