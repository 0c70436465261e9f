import Graft.Data

/-!
# Writing JSON

`compact` writes a value without blanks; `pretty` puts every item on a line of its own, indented by
two spaces a level. Only quotes, backslashes and control characters are escaped.
-/
namespace Graft.Json

private def hexDigit (n : Nat) : Char := (Nat.digitChar n)

/-- A character inside a string. -/
def escape (c : Char) : Text :=
  if c = '"' then ['\\', '"']
  else if c = '\\' then ['\\', '\\']
  else if c = '\n' then ['\\', 'n']
  else if c = '\r' then ['\\', 'r']
  else if c = '\t' then ['\\', 't']
  else if c.toNat = 8 then ['\\', 'b']
  else if c.toNat = 12 then ['\\', 'f']
  else if c.toNat < 32 then
    ['\\', 'u', '0', '0', hexDigit (c.toNat / 16), hexDigit (c.toNat % 16)]
  else [c]

def quote (t : Text) : Text := '"' :: t.flatMap escape ++ ['"']

mutual

def compact : Data → Text
  | .null => "null".toList
  | .bool b => if b then "true".toList else "false".toList
  | .integer n => (toString n).toList
  | .scalar literal => literal
  | .string t => quote t
  | .array items => '[' :: compactItems items ++ [']']
  | .object fields => '{' :: compactFields fields ++ ['}']

def compactItems : List Data → Text
  | [] => []
  | [x] => compact x
  | x :: y :: xs => compact x ++ ',' :: compactItems (y :: xs)

def compactFields : List (Text × Data) → Text
  | [] => []
  | [(k, x)] => quote k ++ ':' :: compact x
  | (k, x) :: f :: fs => quote k ++ ':' :: compact x ++ ',' :: compactFields (f :: fs)

end

private def newline (level : Nat) : Text := '\n' :: List.replicate (2 * level) ' '

mutual

/-- A value whose lines after the first are indented by `level` levels. -/
def prettyAt (level : Nat) : Data → Text
  | .array (x :: xs) =>
    '[' :: newline (level + 1) ++ prettyItems (level + 1) (x :: xs) ++ newline level ++ [']']
  | .object (f :: fs) =>
    '{' :: newline (level + 1) ++ prettyFields (level + 1) (f :: fs) ++ newline level ++ ['}']
  | .array [] => ['[', ']']
  | .object [] => ['{', '}']
  | .null => "null".toList
  | .bool b => if b then "true".toList else "false".toList
  | .integer n => (toString n).toList
  | .scalar literal => literal
  | .string t => quote t

def prettyItems (level : Nat) : List Data → Text
  | [] => []
  | [x] => prettyAt level x
  | x :: y :: xs => prettyAt level x ++ ',' :: newline level ++ prettyItems level (y :: xs)

def prettyFields (level : Nat) : List (Text × Data) → Text
  | [] => []
  | [(k, x)] => quote k ++ ':' :: ' ' :: prettyAt level x
  | (k, x) :: f :: fs =>
    quote k ++ ':' :: ' ' :: prettyAt level x ++ ',' :: newline level ++
      prettyFields level (f :: fs)

end

def pretty (x : Data) : Text := prettyAt 0 x

end Graft.Json
