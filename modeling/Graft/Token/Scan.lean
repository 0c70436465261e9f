import Graft.Position
import Graft.Text.Blank
import Graft.Text.Letter
import Graft.Text.Numeral
import Graft.Token
import Graft.Token.Literal

/-!
# Scanning

A script is cut into lexemes from the front: the first character and a look at what follows decide
the kind and the extent of each. Nothing is dropped. A line `#!` at the very beginning is a comment.
-/
namespace Graft

open Literal (Fault)

namespace Lexeme

def isNameStart (c : Char) : Bool :=
  Text.isLetter c || c == '_' || c == '$'

def isNamePart (c : Char) : Bool :=
  Text.isLetter c || Text.isNumeral c || c == '_' || c == '$'

/-- A blank that does not end the line. -/
def isGap (c : Char) : Bool :=
  Text.isBlank c && c != '\n'

/-- How many characters go on a number. A point does when a digit follows it. -/
def numberExtent : Text → Nat
  | [] => 0
  | c :: r =>
    let point := c == '.' && (r.head?.any Char.isDigit)
    if c.isAlphanum || c == '_' || point then numberExtent r + 1 else 0

/-- How many characters there are up to and with the next end of a block comment. -/
def commentExtent : Text → Option Nat
  | [] => none
  | [_] => none
  | c :: d :: r =>
    if c = '*' && d = '/' then some 2 else (commentExtent (d :: r)).map (· + 1)

/-- How many characters there are before the next line feed. -/
def lineExtent (r : Text) : Nat := (r.takeWhile (· ≠ '\n')).length

/-- The kind of the lexeme that begins with `c` before `r`, and how many characters of `r` it has.
-/
def extent (c : Char) (r : Text) : Except Fault (Token.Kind × Nat) :=
  if c = '\n' then .ok (.newline, 0)
  else if Text.isBlank c then .ok (.whitespace, (r.takeWhile isGap).length)
  else if c = '/' && r.head? = some '/' then .ok (.comment, lineExtent r)
  else if c = '/' && r.head? = some '*' then
    match commentExtent r.tail with
    | some n => .ok (.comment, n + 1)
    | none => .error ⟨.blockComment, c :: r⟩
  else if Literal.isQuote c then (Literal.extent c r).map fun n => (.string, n)
  else if c.isDigit then .ok (.number, numberExtent r)
  else if isNameStart c then .ok (.identifier, (r.takeWhile isNamePart).length)
  else .ok (.symbol, 0)

/-- The lexemes of a text that does not begin a script. -/
def ofBody (t : Text) : Except Fault (List Lexeme) :=
  match t with
  | [] => .ok []
  | c :: r => do
    let (kind, n) ← extent c r
    let rest ← ofBody (r.drop n)
    return ⟨kind, c :: r.take n⟩ :: rest
termination_by t.length
decreasing_by simp only [List.length_cons, List.length_drop]; omega

/-- The lexemes of a script. -/
def ofSource (t : Text) : Except Fault (List Lexeme) :=
  match t with
  | '#' :: '!' :: r => do
    let n := lineExtent r
    let rest ← ofBody (r.drop n)
    return ⟨.comment, '#' :: '!' :: r.take n⟩ :: rest
  | _ => ofBody t

end Lexeme

/-- A text that cannot be cut into tokens: what is wrong and where. -/
structure LexError where
  defect : Literal.Defect
  position : Position
  deriving DecidableEq, Repr

namespace LexError

def message (e : LexError) : String :=
  s!"lex error at {e.position.display}: {e.defect.message}"

/-- Finds the place of a fault in the source. -/
def ofFault (source : Text) (f : Fault) : LexError :=
  ⟨f.defect, .locate source (source.size - Text.size f.rest)⟩

end LexError

/-- The tokens of a script. -/
def Token.scan (source : Text) : Except LexError (List Token) :=
  match Lexeme.ofSource source with
  | .ok ls => .ok (Token.place 0 ls)
  | .error f => .error (.ofFault source f)

end Graft
