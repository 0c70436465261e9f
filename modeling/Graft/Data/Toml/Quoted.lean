import Graft.Text

/-!
# Quoted strings of TOML

A basic string has escapes, a literal one has none; three quotes in a row let a string run over
several lines. Each reader gives the string and what follows it.
-/
namespace Graft.Toml

/-- A control character that no line may hold. -/
def isControl (c : Char) : Bool := (c.toNat < 32 && c != '\t') || c.toNat == 127

private def hexDigit? (c : Char) : Option Nat :=
  if c.isDigit then some (c.toNat - '0'.toNat)
  else if 'a' ≤ c && c ≤ 'f' then some (c.toNat - 'a'.toNat + 10)
  else if 'A' ≤ c && c ≤ 'F' then some (c.toNat - 'A'.toNat + 10)
  else none

/-- The character whose code the hexadecimal digits write. -/
def ofHex? (ds : Text) : Option Char := do
  let n ← ds.foldlM (fun n d => (hexDigit? d).map (16 * n + ·)) 0
  if n < 0xd800 || (0xdfff < n && n < 0x110000) then some (Char.ofNat n) else none

/-- What an escape of one letter stands for. -/
def shortEscape? (c : Char) : Option Char :=
  match c with
  | 'b' => some (Char.ofNat 8)
  | 't' => some '\t'
  | 'n' => some '\n'
  | 'f' => some (Char.ofNat 12)
  | 'r' => some '\r'
  | 'e' => some (Char.ofNat 27)
  | '"' => some '"'
  | '\\' => some '\\'
  | _ => none

private def prepend (c : Option Char) (rest : Option (Text × Text)) : Option (Text × Text) := do
  let c ← c
  let (t, r) ← rest
  return (c :: t, r)

/-- The rest of a basic string on one line. -/
def basic : Text → Option (Text × Text)
  | [] => none
  | '"' :: r => some ([], r)
  | '\\' :: 'x' :: a :: b :: r => prepend (ofHex? [a, b]) (basic r)
  | '\\' :: 'u' :: a :: b :: c :: d :: r => prepend (ofHex? [a, b, c, d]) (basic r)
  | '\\' :: 'U' :: a :: b :: c :: d :: e :: f :: g :: h :: r =>
    prepend (ofHex? [a, b, c, d, e, f, g, h]) (basic r)
  | '\\' :: c :: r => prepend (shortEscape? c) (basic r)
  | c :: r => if isControl c then none else prepend (some c) (basic r)

/-- The rest of a literal string on one line. -/
def literal : Text → Option (Text × Text)
  | [] => none
  | '\'' :: r => some ([], r)
  | c :: r => if isControl c then none else prepend (some c) (literal r)

/-- A text without the line end it begins with. -/
def dropLineEnd : Text → Text
  | '\n' :: r => r
  | '\r' :: '\n' :: r => r
  | t => t

/-- Where a string over several lines stands. After a backslash at the end of a line, white space
is left out; `ended` says that the line end has been passed. -/
inductive Gap where
  | none
  | trimming (ended : Bool)
  deriving DecidableEq, Repr

/-- The rest of a basic string over several lines. Up to two quotes may stand before the three that
close it. -/
def basicLines : Gap → Text → Option (Text × Text)
  | _, [] => .none
  | .trimming ended, ' ' :: r => basicLines (.trimming ended) r
  | .trimming ended, '\t' :: r => basicLines (.trimming ended) r
  | .trimming _, '\n' :: r => basicLines (.trimming true) r
  | .trimming _, '\r' :: '\n' :: r => basicLines (.trimming true) r
  | .trimming false, _ => .none
  | _, '"' :: '"' :: '"' :: '"' :: '"' :: r => some (['"', '"'], r)
  | _, '"' :: '"' :: '"' :: '"' :: r => some (['"'], r)
  | _, '"' :: '"' :: '"' :: r => some ([], r)
  | _, '\\' :: ' ' :: r => basicLines (.trimming false) r
  | _, '\\' :: '\t' :: r => basicLines (.trimming false) r
  | _, '\\' :: '\n' :: r => basicLines (.trimming true) r
  | _, '\\' :: '\r' :: '\n' :: r => basicLines (.trimming true) r
  | _, '\\' :: 'x' :: a :: b :: r => prepend (ofHex? [a, b]) (basicLines .none r)
  | _, '\\' :: 'u' :: a :: b :: c :: d :: r => prepend (ofHex? [a, b, c, d]) (basicLines .none r)
  | _, '\\' :: 'U' :: a :: b :: c :: d :: e :: f :: g :: h :: r =>
    prepend (ofHex? [a, b, c, d, e, f, g, h]) (basicLines .none r)
  | _, '\\' :: c :: r => prepend (shortEscape? c) (basicLines .none r)
  | _, '\r' :: '\n' :: r => prepend (some '\r') (prepend (some '\n') (basicLines .none r))
  | _, c :: r =>
    if isControl c && c != '\n' then .none else prepend (some c) (basicLines .none r)

/-- The rest of a literal string over several lines. -/
def literalLines : Text → Option (Text × Text)
  | [] => none
  | '\'' :: '\'' :: '\'' :: '\'' :: '\'' :: r => some (['\'', '\''], r)
  | '\'' :: '\'' :: '\'' :: '\'' :: r => some (['\''], r)
  | '\'' :: '\'' :: '\'' :: r => some ([], r)
  | '\r' :: '\n' :: r => prepend (some '\r') (prepend (some '\n') (literalLines r))
  | c :: r => if isControl c && c != '\n' then none else prepend (some c) (literalLines r)

/-- A string on one line, as a key may be written. -/
def keyString? : Text → Option (Text × Text)
  | '"' :: r => basic r
  | '\'' :: r => literal r
  | _ => none

/-- A string of any kind. -/
def string? : Text → Option (Text × Text)
  | '"' :: '"' :: '"' :: r => basicLines .none (dropLineEnd r)
  | '\'' :: '\'' :: '\'' :: r => literalLines (dropLineEnd r)
  | t => keyString? t

end Graft.Toml
