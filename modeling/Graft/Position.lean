import Graft.Text

/-!
# Positions

A position is an offset with the line and column a reader sees. Lines and columns count from one;
a column counts characters. Only a line feed ends a line.
-/
namespace Graft

structure Position where
  offset : Nat
  line : Nat
  column : Nat
  deriving DecidableEq, Repr

namespace Position

/-- The position after the text `before`. -/
def after (before : Text) : Position where
  offset := before.size
  line := before.count '\n' + 1
  column := before.lastLine.length + 1

/-- The position of an offset. An offset past the end is taken for the end, one inside a character
for the beginning of that character. -/
def locate (source : Text) (offset : Nat) : Position :=
  after (source.takeBytes offset)

/-- The line of an offset. -/
def lineOf (source : Text) (offset : Nat) : Nat := source.lineFeeds offset + 1

/-- A position as line and column. -/
def display (p : Position) : String :=
  s!"{p.line}:{p.column}"

end Position
end Graft
