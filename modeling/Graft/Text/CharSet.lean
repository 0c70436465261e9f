/-!
# Sets of characters

A set of characters is a list of ranges of code points, both ends included.
-/
namespace Graft.Text

/-- Ranges of code points, both ends included. -/
abbrev CharSet := List (Nat × Nat)

/-- Whether some range holds the character. -/
def CharSet.contains (s : CharSet) (c : Char) : Bool :=
  s.any fun r => r.1 ≤ c.toNat && c.toNat ≤ r.2

end Graft.Text
