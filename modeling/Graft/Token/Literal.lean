import Graft.Text

/-!
# String literals

A literal is delimited by `'` or `"`, once or three times. In a literal delimited by `"` the mark
`${` opens a hole that runs to its matching `}`; a hole may hold braces and literals again, and those
holes of their own. The reader keeps the constructs it is inside of on a stack, innermost first, and
goes through the text once.
-/
namespace Graft.Literal

/-- Why a piece of text is no token. -/
inductive Defect where
  | blockComment
  | string
  | interpolation
  deriving DecidableEq, Repr

def Defect.message : Defect → String
  | .blockComment => "unterminated block comment"
  | .string => "unterminated string literal"
  | .interpolation => "unterminated string interpolation"

/-- A defect with the text from the place it is reported at to the end of the source. -/
structure Fault where
  defect : Defect
  rest : Text
  deriving DecidableEq, Repr

/-- A construct that is open; `opening` is the text from its first character on. -/
inductive Frame where
  | quoted (quote : Char) (triple : Bool) (opening : Text)
  | hole (opening : Text)
  deriving DecidableEq, Repr

/-- The fault of a text that ends inside the frame. -/
def Frame.fault : Frame → Fault
  | .quoted _ _ opening => ⟨.string, opening⟩
  | .hole opening => ⟨.interpolation, opening⟩

def isQuote (c : Char) : Bool := c == '\'' || c == '"'

/-- What one character does. -/
inductive Move where
  /-- The text is no literal. -/
  | fail (fault : Fault)
  /-- The outermost frame closes with this and `more` further characters. -/
  | close (more : Nat)
  /-- Reading goes on in other frames after `skip` further characters. -/
  | next (skip : Nat) (top : Frame) (below : List Frame)

/-- Closes the innermost frame; `more` characters after the present one belong to its end. -/
def leave (more : Nat) : List Frame → Move
  | [] => .close more
  | f :: fs => .next more f fs

/-- Two more quotes `q` follow. -/
def isTripled (q : Char) (r : Text) : Bool := [q, q].isPrefixOf r

/-- What the character `c` before `r` does inside the frame `f` within the frames `fs`. -/
def move (f : Frame) (fs : List Frame) (c : Char) (r : Text) : Move :=
  match f with
  | .quoted q triple _ =>
    if c = '\\' then .next 1 f fs
    else if c = '\n' && !triple then .fail f.fault
    else if c = q then
      if triple then
        if isTripled q r then leave 2 fs else .next 0 f fs
      else leave 0 fs
    else if c = '$' && q = '"' && r.head? = some '{' then .next 1 (.hole (c :: r)) (f :: fs)
    else .next 0 f fs
  | .hole _ =>
    if c = '{' then .next 0 f (f :: fs)
    else if c = '}' then leave 0 fs
    else if isQuote c then
      if isTripled c r then .next 2 (.quoted c true (c :: r)) (f :: fs)
      else .next 0 (.quoted c false (c :: r)) (f :: fs)
    else .next 0 f fs

/-- How many characters there are, `skip` unread ones at the front included, up to the end of the
outermost frame. -/
def closing : Nat → Frame → List Frame → Text → Except Fault Nat
  | _, f, _, [] => .error f.fault
  | skip + 1, f, fs, _ :: r => (closing skip f fs r).map (· + 1)
  | 0, f, fs, c :: r =>
    match move f fs c r with
    | .fail fault => .error fault
    | .close more => .ok (more + 1)
    | .next skip g gs => (closing skip g gs r).map (· + 1)

/-- How many characters after the opening quote `q` belong to its literal. -/
def extent (q : Char) (r : Text) : Except Fault Nat :=
  if isTripled q r then closing 2 (.quoted q true (q :: r)) [] r
  else closing 0 (.quoted q false (q :: r)) [] r

end Graft.Literal
