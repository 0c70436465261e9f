import Graft.Text
import Graft.Text.Printable

/-!
# Quoted text

A text between double quotes in which everything that does not show plainly is escaped.
-/
namespace Graft.Text

private def codePoint (c : Char) : Text :=
  '\\' :: 'u' :: '{' :: (Nat.toDigits 16 c.toNat) ++ ['}']

/-- A character inside a quoted text. -/
def quoteChar (c : Char) : Text :=
  match c with
  | '\x00' => ['\\', '0']
  | '\t' => ['\\', 't']
  | '\r' => ['\\', 'r']
  | '\n' => ['\\', 'n']
  | '"' => ['\\', '"']
  | '\\' => ['\\', '\\']
  | c => if isExtender c || !isPrintable c then codePoint c else [c]

def quoted (t : Text) : Text := '"' :: t.flatMap quoteChar ++ ['"']

end Graft.Text
