import Graft.Shell.Regex.Search
import Graft.Shell.Tool.Basic

/-!
# Scripts that edit streams

The commands of a stream editor, and how a script is read.
-/
namespace Graft.Shell.Tool.Sed

/-- Lines that a command applies to. A regular expression that is left out is the last one used. -/
inductive Address where
  | line (n : Nat)
  | last
  | every (first step : Nat)
  | regex (r : Option Regex.Program) (lines : Bool)

/-- Where a range of lines ends. -/
inductive Reach where
  | upTo (a : Address)
  | plus (n : Nat)
  | multiple (n : Nat)

structure Selector where
  first : Option Address
  second : Option Reach
  negated : Bool

/-- What is done with the case of letters. -/
inductive Casing where
  | upper
  | lower
  | upperFirst
  | lowerFirst
  | plain
  deriving DecidableEq, Repr

/-- A part of a replacement. -/
inductive Part where
  | text (b : Bytes)
  | group (n : Nat)
  | casing (c : Casing)

structure Substitution where
  regex : Option Regex.Program
  lines : Bool
  parts : List Part
  isGlobal : Bool
  number : Nat
  prints : Bool
  /-- The new text is run as a command, and replaced by what that prints. -/
  evaluates : Bool
  file : Option Bytes

inductive Verb where
  /-- Commands up to the one with the given number. -/
  | block (stop : Nat)
  | nothing
  | append (text : Bytes)
  | insert (text : Bytes)
  | change (text : Bytes)
  | delete
  | deleteFirst
  | print
  | printFirst
  | lineNumber
  | list (width : Option Nat)
  | next
  | nextBehind
  | quit (status : Nat) (silent : Bool)
  | readFile (path : Bytes)
  | readLine (path : Bytes)
  | writeFile (path : Bytes)
  | writeFirst (path : Bytes)
  | substitute (s : Substitution)
  | exchange (pairs : List (Char × Char))
  | hold (behind : Bool)
  | fetch (behind : Bool)
  | swap
  | jump (label : Bytes)
  | jumpIfChanged (label : Bytes)
  | jumpUnlessChanged (label : Bytes)
  | clear
  | fileName
  | execute (command : Bytes)

structure Script where
  commands : Array (Selector × Verb)
  labels : List (Bytes × Nat)

/-- What is wrong with a script, and how much of it was not yet read then. -/
structure Flaw where
  message : String
  left : Nat

/-! ## Texts -/

private def isBlank (c : Char) : Bool := c == ' ' || c == '\t'

private def digitsOf (t : Bytes) : Bytes := t.takeWhile Char.isDigit

/-- The byte that an escape stands for, and what follows. -/
private def special? : Bytes → Option (Char × Bytes)
  | 'a' :: r => some ('\x07', r)
  | 'f' :: r => some ('\x0c', r)
  | 'n' :: r => some ('\n', r)
  | 'r' :: r => some ('\r', r)
  | 't' :: r => some ('\t', r)
  | 'v' :: r => some ('\x0b', r)
  | 'c' :: c :: r => some (Char.ofNat (c.toUpper.toNat ^^^ 64), r)
  | 'd' :: r => coded 10 3 r
  | 'o' :: r => coded 8 3 r
  | 'x' :: r => coded 16 2 r
  | _ => none
where
  coded (base count : Nat) (r : Bytes) : Option (Char × Bytes) :=
    let ds := (Arithmetic.digits base (r.take count)).1
    if ds.isEmpty then none
    else some (Char.ofNat (Arithmetic.ofDigits base ds % 256), r.drop ds.length)

/-- How long a set between brackets is, from behind the opening bracket to the closing one. -/
private def bracketLength (t : Bytes) : Nat :=
  let first := if t.head? == some '^' then 1 else 0
  let first := if (t.drop first).head? == some ']' then first + 1 else first
  let rec go : Nat → Nat → Bytes → Nat
    | 0, n, _ => n
    | _, n, [] => n
    | fuel + 1, n, '[' :: c :: r =>
      if c == ':' || c == '.' || c == '=' then
        let rec inside : Nat → Nat → Bytes → Nat × Bytes
          | 0, n, t => (n, t)
          | _, n, [] => (n, [])
          | fuel + 1, n, x :: ']' :: r =>
            if x == c then (n + 2, r) else inside fuel (n + 1) (']' :: r)
          | fuel + 1, n, _ :: r => inside fuel (n + 1) r
        let (n, r) := inside fuel (n + 2) r
        go fuel n r
      else go fuel (n + 1) (c :: r)
    | fuel + 1, n, c :: r => if c == ']' then n + 1 else go fuel (n + 1) r
  go t.length first (t.drop first)

/-- The text up to a mark, and what follows the mark. In a regular expression the mark may stand
between brackets. -/
private def upToMark (mark : Char) (isRegex : Bool) :
    Nat → Bytes → Bytes → Except Nat (Bytes × Bytes)
  | 0, _, t => .error t.length
  | _, _, [] => .error 0
  | fuel + 1, done, c :: r =>
    if c == mark then .ok (done.reverse, r)
    else if c == '\n' && isRegex then .error r.length
    else if c == '\n' then .error (r.length + 1)
    else if c == '\\' then
      match r with
      | [] => .error 0
      | d :: r =>
        if d == 'n' && isRegex && mark != 'n' then
          upToMark mark isRegex fuel ('n' :: '\\' :: done) r
        else if d == '\n' then
          upToMark mark isRegex fuel (if isRegex then '\n' :: done else '\n' :: '\\' :: done) r
        else if d == mark && !(!isRegex && d == '&') then upToMark mark isRegex fuel (d :: done) r
        else upToMark mark isRegex fuel (d :: '\\' :: done) r
    else if c == '[' && isRegex then
      let n := bracketLength r
      if r.length ≤ n && (r.getLast? != some ']' || r.length < n) then .error 0
      else upToMark mark isRegex fuel ((r.take n).reverse ++ '[' :: done) (r.drop n)
    else upToMark mark isRegex fuel (c :: done) r

/-- Puts bytes in place of the escapes of an expression. -/
private def normalized (d : Regex.Dialect) : Nat → Bool → Bytes → Bytes
  | 0, _, t => t
  | _, _, [] => []
  | fuel + 1, inside, '\\' :: r =>
    match special? r, r with
    | some (c, rest), x :: _ =>
      let isSign := "*.[]^$/+?()|\\\x7b\x7d".toList.contains c
      if (x == 'd' || x == 'o' || x == 'x' || x == 'c') && isSign && !inside then
        let escapes := if d.extended || "*.[]^$\\".toList.contains c then ['\\', c] else [c]
        escapes ++ normalized d fuel inside rest
      else c :: normalized d fuel inside rest
    | _, c :: r =>
      if inside then '\\' :: normalized d fuel inside (c :: r)
      else '\\' :: c :: normalized d fuel inside r
    | _, [] => ['\\']
  | fuel + 1, false, '[' :: r =>
    let n := bracketLength r
    '[' :: normalized d fuel true (r.take n) ++ normalized d fuel false (r.drop n)
  | fuel + 1, inside, c :: r => c :: normalized d fuel inside r

/-- Reads a regular expression; an empty one is the last one used. -/
private def compileRegex (d : Regex.Dialect) (left : Nat) (t : Bytes) :
    Except Flaw (Option Regex.Program) :=
  if t.isEmpty then .ok none
  else
    match Regex.compile d (normalized d (t.length + 1) false t) with
    | .ok p => .ok (some p)
    | .error f => .error ⟨f.message, left⟩

/-- The parts of a replacement. -/
private def replacement : Nat → Bytes → Bytes → List Part
  | 0, done, _ => [.text done.reverse]
  | _, done, [] => if done.isEmpty then [] else [.text done.reverse]
  | fuel + 1, done, '&' :: r => .text done.reverse :: .group 0 :: replacement fuel [] r
  | fuel + 1, done, '\\' :: c :: r =>
    let part (p : Part) : List Part := .text done.reverse :: p :: replacement fuel [] r
    if c.isDigit then part (.group (c.toNat - '0'.toNat))
    else
      match c with
      | 'U' => part (.casing .upper)
      | 'L' => part (.casing .lower)
      | 'u' => part (.casing .upperFirst)
      | 'l' => part (.casing .lowerFirst)
      | 'E' => part (.casing .plain)
      | c =>
        match special? (c :: r) with
        | some (x, rest) => replacement fuel (x :: done) rest
        | none => replacement fuel (c :: done) r
  | fuel + 1, done, c :: r => replacement fuel (c :: done) r

/-- The text of an inserted line: backslashes are taken away, and lines go on behind them. -/
private def insertedText : Nat → Bytes → Bytes → Bytes × Bytes
  | 0, done, t => (done.reverse, t)
  | _, done, [] => (('\n' :: done).reverse, [])
  | fuel + 1, done, '\\' :: c :: r =>
    if c == '\n' then insertedText fuel ('\n' :: done) r
    else
      match special? (c :: r) with
      | some (x, rest) =>
        if x == '\n' then insertedText fuel (c :: done) r else insertedText fuel (x :: done) rest
      | none => insertedText fuel (c :: done) r
  | _, done, ['\\'] => (('\n' :: done).reverse, [])
  | fuel + 1, done, c :: r =>
    if c == '\n' then (('\n' :: done).reverse, r) else insertedText fuel (c :: done) r

/-! ## Addresses -/

private def flagsOfAddress : Nat → Regex.Dialect → Bool → Bytes → Regex.Dialect × Bool × Bytes
  | 0, d, lines, t => (d, lines, t)
  | fuel + 1, d, lines, 'I' :: r => flagsOfAddress fuel { d with folded := true } lines r
  | fuel + 1, d, _, 'M' :: r => flagsOfAddress fuel d true r
  | _, d, lines, t => (d, lines, t)

/-- An address at the beginning of a text. -/
private def address? (d : Regex.Dialect) (t : Bytes) : Except Flaw (Option Address × Bytes) :=
  let regex (mark : Char) (r : Bytes) : Except Flaw (Option Address × Bytes) :=
    match upToMark mark true (r.length + 1) [] r with
    | .error left => .error ⟨"unterminated address regex", left⟩
    | .ok (body, rest) => do
      let (d, lines, rest) := flagsOfAddress rest.length d false rest
      let p ← compileRegex d rest.length body
      return (some (.regex p lines), rest)
  match t with
  | '/' :: r => regex '/' r
  | '\\' :: c :: r => regex c r
  | ['\\'] => .error ⟨"unterminated address regex", 0⟩
  | '$' :: r => .ok (some .last, r)
  | t =>
    let ds := digitsOf t
    if ds.isEmpty then .ok (none, t)
    else
      match (t.drop ds.length).dropWhile isBlank with
      | '~' :: r =>
        let step := digitsOf r
        .ok (some (.every (ofDigits ds) (ofDigits step)), r.drop step.length)
      | _ => .ok (some (.line (ofDigits ds)), t.drop ds.length)

/-- The lines that a command is for. -/
private def selector (d : Regex.Dialect) (t : Bytes) : Except Flaw (Selector × Bytes) := do
  let (first, r) ← address? d t
  let r := r.dropWhile isBlank
  let (second, r) : Option Reach × Bytes ← match first, r with
    | some _, ',' :: r =>
      let r := r.dropWhile isBlank
      match r with
      | '+' :: r => let ds := digitsOf r; pure (some (.plus (ofDigits ds)), r.drop ds.length)
      | '~' :: r => let ds := digitsOf r; pure (some (.multiple (ofDigits ds)), r.drop ds.length)
      | r => do
        match ← address? d r with
        | (some a, r) => pure (some (.upTo a), r)
        | (none, r) => .error ⟨"unexpected \x60,'", r.length - 1⟩
    | _, r => pure (none, r)
  let isZero := first matches some (.line 0)
  let toRegex := second matches some (.upTo (.regex ..))
  if isZero && !toRegex then .error ⟨"invalid usage of line address 0", r.length - 1⟩
  let r := r.dropWhile isBlank
  match r with
  | '!' :: r =>
    let r := r.dropWhile isBlank
    if r.head? == some '!' then .error ⟨"multiple \x60!'s", r.length - 1⟩
    return (⟨first, second, true⟩, r)
  | r => return (⟨first, second, false⟩, r)

/-! ## Commands -/

/-- What may follow a command on its line. -/
private def ending (t : Bytes) : Except Flaw Bytes :=
  match t.dropWhile isBlank with
  | [] => .ok []
  | c :: r =>
    if c == '\n' || c == ';' then .ok r
    else if c == '\x7d' || c == '#' then .ok (c :: r)
    else .error ⟨"extra characters after command", r.length⟩

/-- The name of a file up to the end of the line. -/
private def fileName (t : Bytes) : Except Flaw (Bytes × Bytes) :=
  let r := t.dropWhile isBlank
  let name := r.takeWhile (· != '\n')
  if name.isEmpty then .error ⟨"missing filename in r/R/w/W commands", r.length⟩
  else .ok (name, (r.drop name.length).drop 1)

private def labelOf (t : Bytes) : Bytes × Bytes :=
  let r := t.dropWhile isBlank
  let name := r.takeWhile fun c => !isSpace c && c != ';' && c != '\x7d'
  (name, r.drop name.length)

/-- Flags behind a substitution. -/
private structure SubstitutionFlags where
  isGlobal : Bool
  prints : Bool
  evaluates : Bool
  number : Option Nat
  folded : Bool
  lines : Bool
  file : Option Bytes

private def substitutionFlags : Nat → SubstitutionFlags → Bytes →
    Except Flaw (SubstitutionFlags × Bytes)
  | 0, f, t => .ok (f, t)
  | _, f, [] => .ok (f, [])
  | fuel + 1, f, c :: r =>
    match c with
    | 'g' =>
      if f.isGlobal then .error ⟨"multiple \x60g' options to \x60s' command", r.length⟩
      else substitutionFlags fuel { f with isGlobal := true } r
    | 'p' =>
      if f.prints then .error ⟨"multiple \x60p' options to \x60s' command", r.length⟩
      else substitutionFlags fuel { f with prints := true } r
    | 'i' | 'I' => substitutionFlags fuel { f with folded := true } r
    | 'm' | 'M' => substitutionFlags fuel { f with lines := true } r
    | 'e' => substitutionFlags fuel { f with evaluates := true } r
    | 'w' => do
      let (name, rest) ← fileName r
      return ({ f with file := some name }, rest)
    | '\n' | ';' => .ok (f, r)
    | '\x7d' | '#' => .ok (f, c :: r)
    | c =>
      if isBlank c || c == '\r' then substitutionFlags fuel f r
      else if c.isDigit then
        let ds := digitsOf (c :: r)
        let rest := (c :: r).drop ds.length
        if f.number.isSome then
          .error ⟨"multiple number options to \x60s' command", r.length⟩
        else if ofDigits ds == 0 then
          .error ⟨"number option to \x60s' command may not be zero", rest.length⟩
        else substitutionFlags fuel { f with number := some (ofDigits ds) } rest
      else .error ⟨"unknown option to \x60s'", r.length⟩

private def substitution (d : Regex.Dialect) (t : Bytes) : Except Flaw (Verb × Bytes) :=
  let unfinished (left : Nat) : Except Flaw (Verb × Bytes) :=
    .error ⟨"unterminated \x60s' command", left⟩
  match t with
  | [] => unfinished 0
  | mark :: r =>
    if mark == '\n' || mark == '\\' then unfinished r.length
    else
      match upToMark mark true (r.length + 1) [] r with
      | .error left => unfinished left
      | .ok (body, r) =>
        match upToMark mark false (r.length + 1) [] r with
        | .error left => unfinished left
        | .ok (text, r) => do
          let unset : SubstitutionFlags := ⟨false, false, false, none, false, false, none⟩
          let (f, rest) ← substitutionFlags (r.length + 1) unset r
          let regex ← compileRegex { d with folded := f.folded } rest.length body
          let parts := replacement (text.length + 1) [] text
          let most := parts.foldl (fun n p => match p with
            | .group k => max n k
            | _ => n) 0
          if regex.any (·.groups < most) then
            .error ⟨"invalid reference \\" ++ toString most ++ " on \x60s' command's RHS",
              rest.length⟩
          let s : Substitution :=
            ⟨regex, f.lines, parts, f.isGlobal, f.number.getD 1, f.prints, f.evaluates, f.file⟩
          return (.substitute s, rest)

/-- The characters of one side of an exchange. -/
private def exchanged : Nat → Bytes → Bytes
  | 0, _ => []
  | _, [] => []
  | fuel + 1, '\\' :: c :: r =>
    match special? (c :: r) with
    | some (x, rest) => x :: exchanged fuel rest
    | none => if c == '\\' then '\\' :: exchanged fuel r else '\\' :: c :: exchanged fuel r
  | fuel + 1, c :: r => c :: exchanged fuel r

private def exchange (t : Bytes) : Except Flaw (Verb × Bytes) :=
  match t with
  | [] => .error ⟨"unterminated \x60y' command", 0⟩
  | mark :: r =>
    match upToMark mark false (r.length + 1) [] r with
    | .error left => .error ⟨"unterminated \x60y' command", left⟩
    | .ok (a, r) =>
      match upToMark mark false (r.length + 1) [] r with
      | .error left => .error ⟨"unterminated \x60y' command", left⟩
      | .ok (b, r) => do
        let a := exchanged (a.length + 1) a
        let b := exchanged (b.length + 1) b
        if a.length != b.length then
          .error ⟨"strings for \x60y' command are different lengths", r.length⟩
        let rest ← ending r
        return (.exchange (a.zip b), rest)

/-- The text behind a command that inserts lines. -/
private def inserted (t : Bytes) : Except Flaw (Bytes × Bytes) :=
  match t.dropWhile isBlank with
  | [] => .error ⟨"expected \\ after \x60a', \x60c' or \x60i'", 0⟩
  | '\\' :: r =>
    match r.dropWhile isBlank with
    | [] => .ok ([], [])
    | '\n' :: rest =>
        if rest.isEmpty then .ok ([], []) else .ok (insertedText (rest.length + 1) [] rest)
    | _ => .ok (insertedText (r.length + 1) [] r)
  | '\n' :: r => .error ⟨"expected \\ after \x60a', \x60c' or \x60i'", r.length + 1⟩
  | r => .ok (insertedText (r.length + 1) [] r)

/-- A status or a width behind a command. -/
private def amountOf (t : Bytes) : Option Nat × Bytes :=
  let r := t.dropWhile isBlank
  let ds := digitsOf r
  if ds.isEmpty then (none, t) else (some (ofDigits ds), r.drop ds.length)

/-- A command without its address. -/
private def verb (d : Regex.Dialect) (c : Char) (r : Bytes) : Except Flaw (Verb × Bytes) :=
  let plain (v : Verb) : Except Flaw (Verb × Bytes) := do return (v, ← ending r)
  let withFile (f : Bytes → Verb) : Except Flaw (Verb × Bytes) := do
    let (name, rest) ← fileName r
    return (f name, rest)
  let withLabel (f : Bytes → Verb) : Except Flaw (Verb × Bytes) := do
    let (name, rest) := labelOf r
    return (f name, ← ending rest)
  let withText (f : Bytes → Verb) : Except Flaw (Verb × Bytes) := do
    let (text, rest) ← inserted r
    return (f text, rest)
  match c with
  | '=' => plain .lineNumber
  | 'a' => withText .append
  | 'b' => withLabel .jump
  | 'c' => withText .change
  | 'd' => plain .delete
  | 'D' => plain .deleteFirst
  | 'e' =>
    let command := (r.dropWhile isBlank).takeWhile (· != '\n')
    .ok (.execute command, ((r.dropWhile isBlank).drop command.length).drop 1)
  | 'F' => plain .fileName
  | 'g' => plain (.fetch false)
  | 'G' => plain (.fetch true)
  | 'h' => plain (.hold false)
  | 'H' => plain (.hold true)
  | 'i' => withText .insert
  | 'l' => do
    let (n, rest) := amountOf r
    return (.list n, ← ending rest)
  | 'n' => plain .next
  | 'N' => plain .nextBehind
  | 'p' => plain .print
  | 'P' => plain .printFirst
  | 'q' => do
    let (n, rest) := amountOf r
    return (.quit (n.getD 0) false, ← ending rest)
  | 'Q' => do
    let (n, rest) := amountOf r
    return (.quit (n.getD 0) true, ← ending rest)
  | 'r' => withFile .readFile
  | 'R' => withFile .readLine
  | 's' => substitution d r
  | 't' => withLabel .jumpIfChanged
  | 'T' => withLabel .jumpUnlessChanged
  | 'v' =>
    let (_, rest) := labelOf r
    do return (.nothing, ← ending rest)
  | 'w' => withFile .writeFile
  | 'W' => withFile .writeFirst
  | 'x' => plain .swap
  | 'y' => exchange r
  | 'z' => plain .clear
  | c => .error ⟨"unknown command: \x60" ++ c.toString ++ "'", r.length⟩

/-- Reads commands one after another. Blocks that are open are given by their numbers. -/
private def readCommands (d : Regex.Dialect) :
    Nat → Script → List Nat → Bytes → Except Flaw Script
  | 0, s, _, _ => .ok s
  | fuel + 1, s, blocks, t => do
    match t.dropWhile fun c => isSpace c || c == ';' with
    | [] =>
      if blocks.isEmpty then return s else .error ⟨"unmatched \x60\x7b'", t.length + Nat.pow 2 62⟩
    | '#' :: r => readCommands d fuel s blocks (r.dropWhile (· != '\n'))
    | t =>
      let (sel, r) ← selector d t
      match r with
      | [] => .error ⟨"missing command", 0⟩
      | ':' :: r =>
        if sel.first.isSome then .error ⟨": doesn't want any addresses", r.length⟩
        let (name, rest) := labelOf r
        if name.isEmpty then .error ⟨"\":\" lacks a label", rest.length⟩
        readCommands d fuel { s with labels := s.labels ++ [(name, s.commands.size)] } blocks rest
      | '\x7b' :: r =>
        let n := s.commands.size
        readCommands d fuel { s with commands := s.commands.push (sel, .block 0) } (n :: blocks) r
      | '\x7d' :: r =>
        match blocks with
        | [] => .error ⟨"unexpected \x60\x7d'", r.length⟩
        | n :: blocks =>
          if sel.first.isSome then .error ⟨"\x7d doesn't want any addresses", r.length⟩
          let rest ← ending r
          let stop := s.commands.size
          let code := match s.commands[n]? with
            | some (sel, _) => s.commands.setIfInBounds n (sel, .block stop)
            | none => s.commands
          readCommands d fuel { s with commands := code } blocks rest
      | c :: r =>
        let (v, rest) ← verb d c r
        readCommands d fuel { s with commands := s.commands.push (sel, v) } blocks rest

/-- Reads a script. -/
def Script.parse (extended : Bool) (t : Bytes) : Except Flaw Script :=
  readCommands ⟨extended, false, false, false⟩ (2 * t.length + 2) ⟨#[], []⟩ [] t

/-- The label of a jump that leads nowhere. -/
def Script.missing? (s : Script) : Option Bytes :=
  s.commands.toList.findSome? fun (_, v) =>
    match v with
    | .jump l | .jumpIfChanged l | .jumpUnlessChanged l =>
      if l.isEmpty || s.labels.any (·.1 == l) then none else some l
    | _ => none

end Graft.Shell.Tool.Sed
