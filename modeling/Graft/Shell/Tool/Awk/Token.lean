import Graft.Shell.Format
import Graft.Shell.Tool.Awk.Program

/-!
# Tokens of report programs

The words and signs of a report program. A slash begins a regular expression where no operand stands
before it. A statement that a closing brace ends gets a semicolon.
-/
namespace Graft.Shell.Tool.Awk

inductive Token where
  | number (x : Float) (shown : Bytes)
  | text (b : Bytes)
  | regex (b : Bytes)
  | name (b : Bytes)
  /-- A name with a parenthesis right behind it. -/
  | call (b : Bytes)
  | function (f : Function) (shown : String)
  | word (w : String)
  | sign (s : String)
  | newline
  /-- The semicolon that a closing brace stands for. -/
  | supplied
  | finish
  /-- What cannot be read, with the message for it. -/
  | bad (message : String)

/-- A token, its line, and how many parentheses are open at it. -/
structure Located where
  token : Token
  line : Nat
  depth : Nat

namespace Token

/-- The token as a message shows it. -/
def shown : Token → String
  | number _ b | text b | regex b | name b | call b => String.ofList b
  | function _ t => t
  | word w => w
  | sign s => s
  | newline => "end of line"
  | supplied => "\x7d"
  | finish => "end of file"
  | bad m => m

/-- A slash behind the token divides. -/
def isOperand : Token → Bool
  | number .. | text _ | regex _ | name _ => true
  | function .length _ => true
  | sign s => s == ")" || s == "]" || s == "++" || s == "--" || s == "$"
  | _ => false

end Token

private def keywords : List String :=
  ["BEGIN", "END", "break", "continue", "delete", "do", "else", "exit", "for", "function",
    "getline",
    "gsub", "if", "in", "match", "next", "nextfile", "print", "printf", "return", "split", "sub",
    "while"]

/-- The signs, longer ones first. -/
private def signs : List String :=
  ["&&", "||", "++", "--", "+=", "-=", "*=", "/=", "%=", "^=", "==", "<=", ">=", "!=", "!~", ">>",
    "\x7b", "\x7d", "(", ")", "[", "]", ",", ";", "+", "-", "*", "/", "%", "^", "!", "<", ">", "|",
    "?", ":", "~", "$", "="]

private def isHexadecimal (c : Char) : Bool :=
  c.isDigit || ('a' ≤ c && c ≤ 'f') || ('A' ≤ c && c ≤ 'F')

private def ofHexadecimal (t : Bytes) : Nat :=
  t.foldl (fun n c =>
    16 * n + (if c.isDigit then c.toNat - '0'.toNat else c.toLower.toNat - 'a'.toNat + 10)) 0

/-- A text with its escapes replaced, behind what was read so far, last first. -/
def unescapeText : Nat → Bytes → Bytes → Bytes
  | 0, done, _ => done.reverse
  | _, done, [] => done.reverse
  | fuel + 1, done, '\\' :: c :: r =>
    match c with
    | '"' => unescapeText fuel ('"' :: done) r
    | '\n' => unescapeText fuel done r
    | 'x' =>
      let ds := (r.take 2).takeWhile isHexadecimal
      if ds.isEmpty then unescapeText fuel ('x' :: '\\' :: done) r
      else unescapeText fuel (Char.ofNat (ofHexadecimal ds) :: done) (r.drop ds.length)
    | c =>
      if Format.isOctal c then
        let (x, rest) := Format.octalEscape (c :: r)
        unescapeText fuel (x :: done) rest
      else
        match Format.letterEscape? c with
        | some x => unescapeText fuel (x :: done) r
        | none => unescapeText fuel (c :: '\\' :: done) r
  | fuel + 1, done, c :: r => unescapeText fuel (c :: done) r

/-- The text up to a quote, with its escapes, and what follows. -/
private def quoted : Nat → Bytes → Bytes → Option (Bytes × Bytes)
  | 0, _, _ => none
  | _, _, [] => none
  | _, _, '\n' :: _ => none
  | _, done, '"' :: r => some (done.reverse, r)
  | fuel + 1, done, '\\' :: c :: r => quoted fuel (c :: '\\' :: done) r
  | fuel + 1, done, c :: r => quoted fuel (c :: done) r

/-- The expression up to a slash that is not between brackets, and what follows. -/
private def slashed : Nat → Bool → Bytes → Bytes → Option (Bytes × Bytes)
  | 0, _, _, _ => none
  | _, _, _, [] => none
  | _, _, _, '\n' :: _ => none
  | fuel + 1, inside, done, '\\' :: '/' :: r => slashed fuel inside ('/' :: done) r
  | fuel + 1, inside, done, '\\' :: c :: r => slashed fuel inside (c :: '\\' :: done) r
  | fuel + 1, true, done, ']' :: r => slashed fuel false (']' :: done) r
  | fuel + 1, true, done, '[' :: ':' :: r =>
    let name := r.takeWhile (· != ':')
    if (":]".toList).isPrefixOf (r.drop name.length) then
      slashed fuel true ((name ++ ":]".toList).reverse ++ ':' :: '[' :: done)
        (r.drop (name.length + 2))
    else slashed fuel true (':' :: '[' :: done) r
  | fuel + 1, false, done, '[' :: '^' :: ']' :: r =>
    slashed fuel true (']' :: '^' :: '[' :: done) r
  | fuel + 1, false, done, '[' :: ']' :: r => slashed fuel true (']' :: '[' :: done) r
  | fuel + 1, false, done, '[' :: r => slashed fuel true ('[' :: done) r
  | _, false, done, '/' :: r => some (done.reverse, r)
  | fuel + 1, inside, done, c :: r => slashed fuel inside (c :: done) r

private def runaway (kind : String) (mark : Char) (r : Bytes) : String :=
  "runaway " ++ kind ++ " " ++ mark.toString ++
    String.ofList ((r.takeWhile (· != '\n')).take 10) ++ " ..."

private def isNameStart (c : Char) : Bool := c.isAlpha || c == '_'

/-- The number at the beginning of a text, and what follows. -/
private def numberAt? (t : Bytes) : Option (Float × Bytes) :=
  (Decimal.leading? t).map fun (m, e, rest) => (Decimal.toFloat m e, rest)

/-- Drops blanks, comments and lines that are continued; gives how many lines were passed. -/
private def skip : Nat → Nat → Bytes → Nat × Bytes
  | 0, n, t => (n, t)
  | fuel + 1, n, '\\' :: '\n' :: r => skip fuel (n + 1) r
  | fuel + 1, n, '\\' :: '\r' :: '\n' :: r => skip fuel (n + 1) r
  | fuel + 1, n, '#' :: r => skip fuel n (r.dropWhile (· != '\n'))
  | fuel + 1, n, c :: r =>
    if c == ' ' || c == '\t' || c == '\r' || c == '\x0c' || c == '\x0b' then skip fuel n r
    else (n, c :: r)
  | _, n, [] => (n, [])

/-- Like `skip`, also over the ends of lines. -/
private def skipLines : Nat → Nat → Bytes → Nat × Bytes
  | 0, n, t => (n, t)
  | fuel + 1, n, t =>
    match skip fuel n t with
    | (n, '\n' :: r) => skipLines fuel (n + 1) r
    | (n, r) => (n, r)

/-- The words and signs behind which lines may end. -/
private def goesOn : Token → Bool
  | .newline => true
  | .sign s => [",", "&&", "||", "\x7b", ";"].contains s
  | .word w => w == "do" || w == "else"
  | _ => false

/-- What the scanner knows: the line, how many parentheses and braces are open, and the token
before. -/
private structure Scan where
  line : Nat
  depth : Nat
  braces : Nat
  last : Token

/-- The next token, and what follows it. -/
private def nextToken (s : Scan) (t : Bytes) : Token × Bytes :=
  match t with
  | [] => (.finish, [])
  | '\n' :: r => (.newline, r)
  | '"' :: r =>
    match quoted (r.length + 1) [] r with
    | some (b, rest) => (.text (unescapeText (b.length + 1) [] b), rest)
    | none => (.bad (runaway "string constant" '"' r), [])
  | '/' :: r =>
    if s.last.isOperand then
      match r with
      | '=' :: r => (.sign "/=", r)
      | r => (.sign "/", r)
    else
      match slashed (r.length + 1) false [] r with
      | some (b, rest) => (.regex b, rest)
      | none => (.bad (runaway "regular expression" '/' r), [])
  | c :: r =>
    if c.isDigit || (c == '.' && r.head?.any Char.isDigit) then
      match numberAt? (c :: r) with
      | some (x, rest) => (.number x ((c :: r).take (r.length + 1 - rest.length)), rest)
      | none => (.bad "", [])
    else if isNameStart c then
      let name := (c :: r).takeWhile fun c => isNameStart c || c.isDigit
      let rest := (c :: r).drop name.length
      let w := String.ofList name
      if keywords.contains w then (.word w, rest)
      else
        match Function.all.lookup w with
        | some f => (.function f w, rest)
        | none => (if rest.head? == some '(' then .call name else .name name, rest)
    else
      match signs.find? fun x => x.toList.isPrefixOf (c :: r) with
      | some x => (.sign x, (c :: r).drop x.length)
      | none => (.bad ("unexpected character '" ++ c.toString ++ "'"), [])

/-- Signs that close nothing are left out of the tokens; they are given apart, last first, with the
number of the tokens before them. -/
private def scan : Nat → Scan → List Located → List (Nat × Located) → Bytes →
    List Located × List (Nat × Located)
  | 0, _, done, extra, _ => (done.reverse, extra)
  | fuel + 1, s, done, extra, t =>
    let (lines, t) :=
      if goesOn s.last then skipLines (t.length + 1) 0 t else skip (t.length + 1) 0 t
    let s := { s with line := s.line + lines }
    let add (k : Token) : List Located := ⟨k, s.line, s.depth⟩ :: done
    let (k, rest) := nextToken s t
    match k with
    | .finish =>
      ((⟨.finish, s.line + 1, s.depth⟩ :: ⟨.newline, s.line, s.depth⟩ :: done).reverse, extra)
    | .bad _ => ((add k).reverse, extra)
    | .newline =>
      let s := { s with line := s.line + 1, depth := 0, last := .newline }
      scan fuel s (add .newline) extra rest
    | .sign "(" => scan fuel { s with depth := s.depth + 1, last := k } (add k) extra rest
    | .sign ")" =>
      if s.depth = 0 then
        let l : Located := ⟨.bad "extra ')'", s.line, 0⟩
        scan fuel s done ((done.length, l) :: extra) rest
      else scan fuel { s with depth := s.depth - 1, last := k } (add k) extra rest
    | .sign "\x7b" =>
      scan fuel { s with braces := s.braces + 1, depth := 0, last := k } (add k) extra rest
    | .sign "\x7d" =>
      if s.braces = 0 then
        let l : Located := ⟨.bad "extra '\x7d'", s.line, 0⟩
        scan fuel s done ((done.length, l) :: extra) rest
      else
        match s.last with
        | .newline | .supplied | .sign ";" | .sign "\x7b" | .sign "\x7d" =>
          let (lines, rest) := skipLines (rest.length + 1) 0 rest
          let (lines, rest) := match s.braces, rest with
            | 1, ';' :: rest =>
              if lines = 0 then skipLines (rest.length + 1) lines rest else (lines, ';' :: rest)
            | _, _ => (lines, rest)
          scan fuel { s with braces := s.braces - 1, line := s.line + lines, depth := 0, last := k }
            (add k) extra rest
        | _ => scan fuel { s with last := .supplied } (add .supplied) extra t
    | k => scan fuel { s with last := k } (add k) extra rest

/-- The tokens of a program, and the signs that close nothing with the number of tokens before
them. -/
def tokens (t : Bytes) : List Located × List (Nat × Located) :=
  let (lines, t) := skipLines (t.length + 1) 0 t
  let (ts, extra) := scan (2 * t.length + 4) ⟨1 + lines, 0, 0, .finish⟩ [] [] t
  (ts, extra.reverse)

end Graft.Shell.Tool.Awk
