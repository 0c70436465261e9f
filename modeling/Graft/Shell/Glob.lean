import Graft.Shell.Bytes

/-!
# Patterns of the shell

In a pattern `*` stands for any text, `?` for one character and `[…]` for one of several. A quoted
character stands for itself.
-/
namespace Graft.Shell

/-- A character of a pattern, and whether it stands for itself. -/
abbrev Glob := List (Char × Bool)

/-- The named classes of characters. -/
def charClass? (name : String) : Option (Char → Bool) :=
  let isGraph (c : Char) : Bool := '!' ≤ c && c ≤ '~'
  match name with
  | "alnum" => some Char.isAlphanum
  | "alpha" => some Char.isAlpha
  | "blank" => some fun c => c == ' ' || c == '\t'
  | "cntrl" => some fun c => c.toNat < 32 || c.toNat == 127
  | "digit" => some Char.isDigit
  | "graph" => some isGraph
  | "lower" => some Char.isLower
  | "print" => some fun c => isGraph c || c == ' '
  | "punct" => some fun c => isGraph c && !c.isAlphanum
  | "space" => some fun c => c == ' ' || ('\t' ≤ c && c ≤ '\r')
  | "upper" => some Char.isUpper
  | "xdigit" => some fun c => c.isDigit || ('a' ≤ c && c ≤ 'f') || ('A' ≤ c && c ≤ 'F')
  | _ => none

namespace Glob

def ofBytes (quoted : Bool) (t : Bytes) : Glob := t.map (·, quoted)

/-- The text of a pattern. -/
def text (g : Glob) : Bytes := g.map (·.1)

/-- The named class behind an opening bracket, and what follows it. -/
def class? (g : Glob) : Option ((Char → Bool) × Glob) :=
  match g with
  | (':', false) :: r =>
    let name := (r.takeWhile fun (c, q) => c.isAlpha && !q).map (·.1)
    match r.drop name.length with
    | (':', false) :: (']', false) :: rest =>
      (charClass? (String.ofList name)).map (·, rest)
    | _ => none
  | _ => none

/-- Reads the members of a set up to its closing bracket, which cannot come first. Says whether one
of them is `c`, and gives what follows. -/
def members (c : Char) : Nat → Bool → Bool → Glob → Option (Bool × Glob)
  | 0, _, _, _ => none
  | _, _, _, [] => none
  | fuel + 1, isFirst, found, (m, quoted) :: r =>
    if m == ']' && !quoted && !isFirst then some (found, r)
    else
      match (if m == '[' && !quoted then class? r else none) with
      | some (isIn, rest) => members c fuel false (found || isIn c) rest
      | none =>
        match r with
        | ('-', false) :: (high, q) :: rest =>
          if high == ']' && !q then members c fuel false (found || c == m) r
          else members c fuel false (found || (m ≤ c && c ≤ high)) rest
        | _ => members c fuel false (found || c == m) r

/-- Whether a set that begins behind its opening bracket has the character, and what follows it. -/
def inSet? (c : Char) (g : Glob) : Option (Bool × Glob) :=
  let negated := g.head? == some ('!', false)
  (members c (g.length + 1) true false (if negated then g.tail else g)).map fun (found, rest) =>
    (found != negated, rest)

/-- Whether the pattern fits the whole text, found in at most `fuel` steps. -/
def fits : Nat → Glob → Bytes → Bool
  | 0, _, _ => false
  | _, [], t => t.isEmpty
  | fuel + 1, (p, quoted) :: g, t =>
    if p == '*' && !quoted then
      fits fuel g t || (match t with
        | [] => false
        | _ :: r => fits fuel ((p, quoted) :: g) r)
    else
      match t with
      | [] => false
      | c :: r =>
        if quoted then p == c && fits fuel g r
        else if p == '?' then fits fuel g r
        else if p == '[' then
          match inSet? c g with
          | some (isIn, rest) => isIn && fits fuel rest r
          | none => p == c && fits fuel g r
        else p == c && fits fuel g r

/-- Whether the pattern fits the whole text. -/
def covers (g : Glob) (t : Bytes) : Bool := fits (g.length + t.length + 1) g t

/-- The text without the shortest or longest match at its beginning. -/
def dropStart (g : Glob) (longest : Bool) (t : Bytes) : Bytes :=
  let sizes := List.range (t.length + 1)
  let sizes := if longest then sizes.reverse else sizes
  match sizes.find? fun n => covers g (t.take n) with
  | some n => t.drop n
  | none => t

/-- The text without the shortest or longest match at its end. -/
def dropEnd (g : Glob) (longest : Bool) (t : Bytes) : Bytes :=
  let sizes := List.range (t.length + 1)
  let sizes := if longest then sizes else sizes.reverse
  match sizes.find? fun n => covers g (t.drop n) with
  | some n => t.take n
  | none => t

/-! ## Patterns for paths -/

/-- The parts of a pattern between slashes. -/
def components : Glob → List Glob
  | [] => [[]]
  | (c, q) :: r =>
    match components r with
    | [] => [[(c, q)]]
    | g :: gs => if c == '/' then [] :: g :: gs else ((c, q) :: g) :: gs

/-- Whether some bracket that follows closes a set. -/
private def closes : Glob → Bool
  | [] => false
  | _ :: r => r.any (· == (']', false))

/-- Whether some character does not stand for itself. -/
def isOpen : Glob → Bool
  | [] => false
  | (c, quoted) :: r =>
    (!quoted && (c == '*' || c == '?' ||
      (c == '[' && closes (if r.head? == some ('!', false) then r.tail else r)))) || isOpen r

end Glob
end Graft.Shell
