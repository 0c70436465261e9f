import Graft.Data.Json.Number

/-!
# Reading JSON

The text is cut into marks, which a stack of open arrays and objects puts together. Nesting is
limited to `maxDepth` levels, and a number too large for a double is refused.
-/
namespace Graft.Json

/-- The signs a JSON text is made of. -/
inductive Mark where
  | openArray
  | closeArray
  | openObject
  | closeObject
  | comma
  | colon
  | value (v : Data)

def isSpace (c : Char) : Bool := c == ' ' || c == '\n' || c == '\t' || c == '\r'

private def hexValue (c : Char) : Option Nat :=
  if c.isDigit then some (c.toNat - '0'.toNat)
  else if 'a' ≤ c && c ≤ 'f' then some (c.toNat - 'a'.toNat + 10)
  else if 'A' ≤ c && c ≤ 'F' then some (c.toNat - 'A'.toNat + 10)
  else none

/-- The code unit that four hexadecimal digits write. -/
def codeUnit? (a b c d : Char) : Option Nat := do
  return 4096 * (← hexValue a) + 256 * (← hexValue b) + 16 * (← hexValue c) + (← hexValue d)

private def simpleEscape? (c : Char) : Option Char :=
  match c with
  | '"' => some '"'
  | '\\' => some '\\'
  | '/' => some '/'
  | 'b' => some (Char.ofNat 8)
  | 'f' => some (Char.ofNat 12)
  | 'n' => some '\n'
  | 'r' => some '\r'
  | 't' => some '\t'
  | _ => none

/-- A pair of surrogate code units as one character. -/
def ofSurrogates (high low : Nat) : Char :=
  Char.ofNat (0x10000 + (high - 0xd800) * 0x400 + (low - 0xdc00))

/-- The characters of a string up to its closing quote, and what follows. -/
def stringBody : Text → Option (Text × Text)
  | '"' :: r => some ([], r)
  | '\\' :: 'u' :: a :: b :: c :: d :: r =>
    match codeUnit? a b c d with
    | none => none
    | some u =>
      if 0xd800 ≤ u && u < 0xdc00 then
        match r with
        | '\\' :: 'u' :: e :: f :: g :: h :: r' =>
          match codeUnit? e f g h with
          | none => none
          | some v =>
            if 0xdc00 ≤ v && v < 0xe000 then
              (stringBody r').map fun (t, rest) => (ofSurrogates u v :: t, rest)
            else none
        | _ => none
      else if 0xdc00 ≤ u && u < 0xe000 then none
      else (stringBody r).map fun (t, rest) => (Char.ofNat u :: t, rest)
  | '\\' :: c :: r =>
    match simpleEscape? c with
    | none => none
    | some e => (stringBody r).map fun (t, rest) => (e :: t, rest)
  | c :: r =>
    if c.toNat < 32 || c = '\\' then none
    else (stringBody r).map fun (t, rest) => (c :: t, rest)
  | [] => none

/-- The first mark of a text that begins with the character `c`. -/
def mark (c : Char) (r : Text) : Option (Mark × Text) :=
  match c with
  | '[' => some (.openArray, r)
  | ']' => some (.closeArray, r)
  | '{' => some (.openObject, r)
  | '}' => some (.closeObject, r)
  | ',' => some (.comma, r)
  | ':' => some (.colon, r)
  | '"' => (stringBody r).map fun (t, rest) => (.value (.string t), rest)
  | 't' => match r with
    | 'r' :: 'u' :: 'e' :: r' => some (.value (.bool true), r')
    | _ => none
  | 'f' => match r with
    | 'a' :: 'l' :: 's' :: 'e' :: r' => some (.value (.bool false), r')
    | _ => none
  | 'n' => match r with
    | 'u' :: 'l' :: 'l' :: r' => some (.value .null, r')
    | _ => none
  | _ => (number (c :: r)).map fun (v, rest) => (.value v, rest)

/-- The marks of a text, of which there are at most `limit` with the spaces between them. -/
def marks : Nat → Text → Option (List Mark)
  | _, [] => some []
  | 0, _ => none
  | limit + 1, c :: r =>
    if isSpace c then marks limit r
    else
      match mark c r with
      | none => none
      | some (m, rest) => (marks limit rest).map (m :: ·)

/-- An array or object whose end is still to come, with what it holds so far, last first. -/
inductive Frame where
  | array (items : List Data)
  | object (fields : List (Text × Data)) (name : Text)

/-- What may come next. -/
inductive Expect where
  /-- A value. -/
  | value
  /-- A value or the end of the array just opened. -/
  | firstItem
  /-- A name or the end of the object just opened, which holds the given fields. -/
  | firstName
  /-- A name of the object that holds the given fields, last first. -/
  | name (fields : List (Text × Data))
  /-- A colon after a name. -/
  | colon
  /-- A comma or the end of the innermost array or object, whose last value is given. -/
  | more (last : Data)

structure State where
  frames : List Frame
  expect : Expect

/-- How deep arrays and objects may nest. -/
def maxDepth : Nat := 127

/-- The names of the enclosing frames are settled: one more value has been read. -/
def State.push (s : State) (v : Data) : State := { s with expect := .more v }

/-- One mark. -/
def State.step (s : State) (m : Mark) : Option State :=
  let value (m : Mark) : Option State :=
    match m with
    | .value v => some (s.push v)
    | .openArray =>
      if s.frames.length < maxDepth then some ⟨.array [] :: s.frames, .firstItem⟩ else none
    | .openObject =>
      if s.frames.length < maxDepth then some ⟨.object [] [] :: s.frames, .firstName⟩ else none
    | _ => none
  match s.expect, m with
  | .value, m => value m
  | .firstItem, .closeArray => some ⟨s.frames.tail, .more (.array [])⟩
  | .firstItem, m => value m
  | .firstName, .closeObject => some ⟨s.frames.tail, .more (.object [])⟩
  | .firstName, .value (.string k) => some ⟨.object [] k :: s.frames.tail, .colon⟩
  | .firstName, _ => none
  | .name fields, .value (.string k) => some ⟨.object fields k :: s.frames.tail, .colon⟩
  | .name _, _ => none
  | .colon, .colon => some { s with expect := .value }
  | .colon, _ => none
  | .more last, m =>
    match s.frames, m with
    | .array items :: fs, .comma => some ⟨.array (last :: items) :: fs, .value⟩
    | .array items :: fs, .closeArray => some ⟨fs, .more (.array (last :: items).reverse)⟩
    | .object fields k :: fs, .comma =>
      some ⟨.object fields k :: fs, .name ((k, last) :: fields)⟩
    | .object fields k :: fs, .closeObject =>
      some ⟨fs, .more (.object ((k, last) :: fields).reverse)⟩
    | _, _ => none

/-- Reads one value that takes up the whole text. -/
def parse? (t : Text) : Option Data := do
  let ms ← marks t.length t
  let s ← ms.foldlM State.step ⟨[], .value⟩
  match s.frames, s.expect with
  | [], .more v => some v
  | _, _ => none

end Graft.Json
