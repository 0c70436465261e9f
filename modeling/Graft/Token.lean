import Graft.Span
import Graft.Text

/-!
# Tokens

A lexeme is a piece of text with its kind; a token is a lexeme at its place in the source. Lexemes
laid end to end give the source back, so a place follows from the lexemes before it.
-/
namespace Graft

/-- What a piece of a script is. -/
inductive Token.Kind where
  | identifier
  | string
  | number
  /-- A single character of punctuation. -/
  | symbol
  | comment
  /-- Blanks within a line. -/
  | whitespace
  /-- One line feed. -/
  | newline
  deriving DecidableEq, Repr

/-- A piece of text with its kind. -/
structure Lexeme where
  kind : Token.Kind
  text : Text
  deriving DecidableEq, Repr

/-- A lexeme that begins at byte `start` of the source. -/
structure Token extends Lexeme where
  start : Nat
  deriving DecidableEq, Repr

namespace Token

/-- The offset right after the token. -/
def stop (t : Token) : Nat := t.start + t.text.size

def span (t : Token) : Span := ⟨t.start, t.stop⟩

/-- Whitespace and comments carry no structure. -/
def Kind.isTrivia : Kind → Bool
  | whitespace | comment => true
  | _ => false

def isTrivia (t : Token) : Bool := t.kind.isTrivia

/-- Whether the token is the punctuation mark `c`. -/
def isSymbol (c : Char) (t : Token) : Bool :=
  t.kind == .symbol && t.text == [c]

/-- `next` begins where `t` ends. -/
def touches (t next : Token) : Bool := t.stop == next.start

/-- Moves a token `by` bytes to the right. -/
def shift (distance : Nat) (t : Token) : Token :=
  { t with start := t.start + distance }

/-- Lays lexemes end to end from `start` on. -/
def place : Nat → List Lexeme → List Token
  | _, [] => []
  | start, l :: ls => ⟨l, start⟩ :: place (start + l.text.size) ls

/-- The tokens that carry structure. -/
def significant (ts : List Token) : List Token :=
  ts.filter fun t => !t.isTrivia

end Token
end Graft
