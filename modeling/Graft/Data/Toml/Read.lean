import Graft.Data.Toml.Quoted
import Graft.Data.Toml.Scalar
import Graft.Data.Toml.Table

/-!
# Reading TOML

A file is read line by line: a header chooses a table, a key and a value add to it. Arrays and
inline tables may run over several lines and nest at most `maxNesting` levels.
-/
namespace Graft.Toml

def isSpace (c : Char) : Bool := c == ' ' || c == '\t'

def skipSpace (t : Text) : Text := t.dropWhile isSpace

/-- What follows white space, line ends and comments; `comment` says that one has begun. -/
def skip : Bool → Text → Option Text
  | _, [] => some []
  | _, '\r' :: '\n' :: r => skip false r
  | comment, c :: r =>
    if c = '\n' then skip false r
    else if comment then if isControl c then none else skip true r
    else if c = '#' then skip true r
    else if isSpace c then skip false r
    else some (c :: r)

/-! ## Keys -/

def isBare (c : Char) : Bool := c.isAlphanum || c == '_' || c == '-'

/-- One name of a key. -/
def name? (t : Text) : Option (Text × Text) :=
  match t.takeWhile isBare with
  | [] => keyString? t
  | n => some (n, t.dropWhile isBare)

/-- How many names a key may have. -/
def maxNames : Nat := 80

/-- A key: at most `limit` names with dots between them. Gives the names before the last, the last,
and what follows. -/
def names? : Nat → Text → Option (List Text × Text × Text)
  | 0, _ => none
  | limit + 1, t => do
    let (n, r) ← name? (skipSpace t)
    match skipSpace r with
    | '.' :: r' =>
      let (path, last, rest) ← names? limit r'
      return (n :: path, last, rest)
    | r' => return ([], n, r')

/-- A key at the beginning of a text. -/
def key? (t : Text) : Option (List Text × Text × Text) := names? maxNames t

/-! ## Values -/

/-- How deep arrays and inline tables may nest. -/
def maxNesting : Nat := 80

private def endsScalar (c : Char) : Bool :=
  isSpace c || c == '\n' || c == '\r' || c == ',' || c == ']' || c == '}' || c == '#' || c == '='

/-- A scalar that is not quoted. A blank may stand between a date and its time. -/
def bareScalar? (t : Text) : Option (Data × Text) :=
  let word := t.takeWhile (!endsScalar ·)
  let rest := t.dropWhile (!endsScalar ·)
  let timed := match date? word, rest with
    | some [], ' ' :: r =>
      let second := r.takeWhile (!endsScalar ·)
      if second.head?.any Char.isDigit then
        some (word ++ ' ' :: second, r.dropWhile (!endsScalar ·))
      else none
    | _, _ => none
  let (word, rest) := timed.getD (word, rest)
  (scalar? word).map (·, rest)

mutual

/-- A value at the beginning of a text. -/
def value? (fuel depth : Nat) (t : Text) : Option (Data × Text) :=
  match fuel with
  | 0 => none
  | fuel + 1 =>
    match t with
    | '[' :: r => if depth = 0 then none else do items? fuel (depth - 1) [] (← skip false r)
    | '{' :: r => if depth = 0 then none else do fields? fuel (depth - 1) [] (← skip false r)
    | '"' :: _ | '\'' :: _ => (string? t).map fun (s, r) => (.string s, r)
    | _ => bareScalar? t

/-- The rest of an array that begins with the given items, last first. -/
def items? (fuel depth : Nat) (items : List Data) (t : Text) : Option (Data × Text) :=
  match fuel with
  | 0 => none
  | fuel + 1 =>
    match t with
    | ']' :: r => some (.array items.reverse, r)
    | _ => do
      let (v, r) ← value? fuel depth t
      match ← skip false r with
      | ',' :: r' => items? fuel depth (v :: items) (← skip false r')
      | ']' :: r' => some (.array (v :: items).reverse, r')
      | _ => none

/-- The rest of an inline table that begins with the given fields. -/
def fields? (fuel depth : Nat) (fields : Fields) (t : Text) : Option (Data × Text) :=
  match fuel with
  | 0 => none
  | fuel + 1 =>
    match t with
    | '}' :: r => some (.object (fieldsData fields), r)
    | _ => do
      let (path, k, r) ← key? t
      match ← skip false r with
      | '=' :: r' =>
        let (v, r'') ← value? fuel depth (← skip false r')
        let fields ← assign path k v .own fields
        match ← skip false r'' with
        | ',' :: rest => fields? fuel depth fields (← skip false rest)
        | '}' :: rest => some (.object (fieldsData fields), rest)
        | _ => none
      | _ => none

end

/-! ## Lines -/

/-- The file as read so far: its tables, and the names of the header that holds. -/
structure State where
  fields : Fields
  header : List Text

/-- The end of a line: white space, a comment, and a line end or the end of the file. -/
def lineEnd? (t : Text) : Option Text :=
  match skipSpace t with
  | [] => some []
  | '\n' :: r => some r
  | '\r' :: '\n' :: r => some r
  | '#' :: r =>
    let isEnd (c : Char) : Bool := c == '\n' || c == '\r'
    if (r.takeWhile (!isEnd ·)).any isControl then none
    else
      match r.dropWhile (!isEnd ·) with
      | [] => some []
      | '\n' :: r' => some r'
      | '\r' :: '\n' :: r' => some r'
      | _ => none
  | _ => none

/-- One line that is not empty, and what follows it. -/
def line? (s : State) (t : Text) : Option (State × Text) :=
  match t with
  | '[' :: '[' :: r => do
    let (path, k, rest) ← key? r
    match rest with
    | ']' :: ']' :: rest =>
      return (⟨← openRow path k s.fields, path ++ [k]⟩, ← lineEnd? rest)
    | _ => none
  | '[' :: r => do
    let (path, k, rest) ← key? r
    match rest with
    | ']' :: rest => return (⟨← openTable path k s.fields, path ++ [k]⟩, ← lineEnd? rest)
    | _ => none
  | _ => do
    let (path, k, rest) ← key? t
    match rest with
    | '=' :: rest =>
      let (v, rest) ← value? (2 * t.length) maxNesting (skipSpace rest)
      let fields ← descend false (assign path k v) s.header .own s.fields
      return (⟨fields, s.header⟩, ← lineEnd? rest)
    | _ => none

/-- Reads lines to the end. -/
def lines? : Nat → State → Text → Option State
  | 0, _, _ => none
  | fuel + 1, s, t => do
    match ← skip false t with
    | [] => return s
    | t =>
      let (s, rest) ← line? s t
      lines? fuel s rest

/-- Reads a file. -/
def parse? (t : Text) : Option Data := do
  let t := match t with
    | c :: r => if c = Char.ofNat 0xfeff then r else t
    | [] => t
  let s ← lines? (t.length + 1) ⟨[], []⟩ t
  return .object (fieldsData s.fields)

end Graft.Toml
