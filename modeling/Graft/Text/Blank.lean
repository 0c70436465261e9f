import Graft.Text
import Graft.Text.CharSet

/-!
# Blanks

The characters with the Unicode property White_Space, and trimming by them.
-/
namespace Graft.Text

/-- Ranges of White_Space, in increasing order. -/
def blanks : CharSet := [
  (0x9, 0xd), (0x20, 0x20), (0x85, 0x85), (0xa0, 0xa0), (0x1680, 0x1680), (0x2000, 0x200a),
  (0x2028, 0x2029), (0x202f, 0x202f), (0x205f, 0x205f), (0x3000, 0x3000)]

/-- Spaces, tabs, line and page breaks of any script. -/
def isBlank (c : Char) : Bool :=
  blanks.contains c

/-- A text without its leading and trailing blanks. -/
def trim (t : Text) : Text :=
  ((t.dropWhile isBlank).reverse.dropWhile isBlank).reverse

/-- A text of blanks only, the empty one included. -/
def isBlankText (t : Text) : Bool :=
  t.all isBlank

end Graft.Text
