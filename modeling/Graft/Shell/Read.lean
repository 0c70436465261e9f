import Graft.Shell.Script

/-!
# Reading shell scripts

A script is read line by line: a line is a list of chains that ends with a line end, and commands in
it may run over several lines. What cannot be read is reported when its line is reached.
-/
namespace Graft.Shell

/-- Where the reader stands. `taken` counts the lines of here-documents that belong to the current
line and were taken out of the text behind it. An alias that has been replaced is `active` until no
more than so many characters are left. -/
structure Cursor where
  rest : Bytes
  line : Nat
  taken : Nat
  aliases : List (Bytes × Bytes)
  active : List (Bytes × Nat)

/-- What is wrong with a script, and on which line. -/
structure Defect where
  line : Nat
  message : String
  deriving DecidableEq, Repr

/-- A reader of scripts. -/
abbrev Reader := StateT Cursor (Except Defect)

private def fail {α : Type} (message : String) : Reader α :=
  fun c => .error ⟨c.line, message⟩

private def flaw {α : Type} (message : String) : Reader α := fail ("Syntax error: " ++ message)

/-- Takes `n` characters and counts their lines. -/
private def skip (n : Nat) : Reader Unit := modify fun c =>
  let lines := (c.rest.take n).count '\n'
  if lines = 0 then { c with rest := c.rest.drop n }
  else { c with rest := c.rest.drop n, line := c.line + lines + c.taken, taken := 0 }

private def rest : Reader Bytes := return (← get).rest

/-- Takes characters as long as they fit. -/
private def takeWhile (p : Char → Bool) : Reader Bytes := do
  let t := (← rest).takeWhile p
  skip t.length
  return t

def isGap (c : Char) : Bool := c == ' ' || c == '\t'

/-- The characters that end a word. -/
def isOperator (c : Char) : Bool :=
  c == ';' || c == '\n' || c == '&' || c == '|' || c == '>' || c == '<' || c == '(' || c == ')'

/-- The mark of an old-fashioned command in a word. -/
def backquote : Char := Char.ofNat 96

/-- What surrounds a part of a word. -/
inductive Context where
  | plain
  | double
  | braces (quoted : Bool)
  | document
  /-- An arithmetic expression with that many open parentheses. -/
  | sum (depth : Nat)
  deriving DecidableEq, Repr

def Context.isQuoted : Context → Bool
  | plain | braces false => false
  | _ => true

/-- Whether a backslash takes away the meaning of a character. -/
def Context.escapes (ctx : Context) (c : Char) : Bool :=
  match ctx with
  | plain | braces false => true
  | document | sum _ => c == '$' || c == backquote || c == '\\'
  | double => c == '$' || c == backquote || c == '\\' || c == '"'
  | braces true => c == '$' || c == backquote || c == '\\' || c == '"' || c == '\x7d'

/-- A token of a script. -/
inductive Token where
  | stop
  | newline
  | operator (t : Bytes)
  | redirect (descriptor : Option Nat) (sign : Bytes)
  | word (w : Word)

def reserved : List Bytes :=
  ["!", "case", "do", "done", "elif", "else", "esac", "fi", "for", "if", "in", "then", "until",
    "while", "\x7b", "\x7d"].map String.toList

/-- Whether the token is this reserved word or operator. -/
def Token.is (t : Token) (s : String) : Bool :=
  match t with
  | operator o => o == s.toList
  | word w => reserved.contains s.toList && Word.literal? w == some s.toList
  | _ => false

/-- Whether no command can begin with the token, so that it ends a list. -/
def Token.endsList (t : Token) : Bool :=
  match t with
  | stop => true
  | _ => [")", ";;", "do", "done", "elif", "else", "esac", "fi", "then", "\x7d"].any t.is

private def inQuotes (t : Bytes) : String := "\"" ++ String.ofList t ++ "\""

def Token.description : Token → String
  | stop => "end of file"
  | newline => "newline"
  | operator t => inQuotes t
  | redirect .. => "redirection"
  | word w =>
    match Word.literal? w with
    | some t => if reserved.contains t then inQuotes t else "word"
    | none => "word"

private def unexpected {α : Type} (t : Token) : Reader α := flaw (t.description ++ " unexpected")

private def expecting {α : Type} (found s : String) : Reader α :=
  flaw (found ++ " unexpected (expecting " ++ inQuotes s.toList ++ ")")

/-- Checks that the token is the one that has to come here. -/
private def expect (t : Token) (s : String) : Reader Unit :=
  if t.is s then return () else expecting t.description s

/-- The longest of the given signs that the text begins with. -/
private def sign? (signs : List String) (t : Bytes) : Option Bytes :=
  (signs.map String.toList).find? (·.isPrefixOf t)

private def operatorSigns : List String := [";;", ";", "&&", "&", "||", "|", "(", ")"]

private def redirectSigns : List String := ["<<-", "<<", "<&", "<>", "<", ">>", ">&", ">|", ">"]

/-- Goes past white space, comments and line ends that a backslash hides. -/
private def skipGaps : Nat → Reader Unit
  | 0 => return ()
  | fuel + 1 => do
    match ← rest with
    | '\\' :: '\n' :: _ => do skip 2; skipGaps fuel
    | '#' :: _ => do let _ ← takeWhile (· != '\n'); return ()
    | c :: _ => if isGap c then do skip 1; skipGaps fuel else return ()
    | [] => return ()

/-- The text of an old-fashioned command up to its closing mark. -/
private def backquoted (quoted : Bool) : Bytes → Option (Bytes × Nat)
  | [] => none
  | '\\' :: c :: r =>
    let hides := c == backquote || c == '\\' || c == '$' || (quoted && c == '"')
    (backquoted quoted r).map fun (t, n) => (if hides then c :: t else '\\' :: c :: t, n + 2)
  | c :: r =>
    if c == backquote then some ([], 1)
    else (backquoted quoted r).map fun (t, n) => (c :: t, n + 1)

/-- The lines of a here-document up to its last, and what follows. -/
private def documentLines (strip : Bool) (mark : Bytes) : Nat → Bytes → Bytes × Bytes × Nat
  | 0, t => ([], t, 0)
  | _, [] => ([], [], 0)
  | fuel + 1, t =>
    let line := t.takeWhile (· != '\n')
    let after := (t.dropWhile (· != '\n')).drop 1
    let line := if strip then line.dropWhile (· == '\t') else line
    if line = mark then ([], after, 1)
    else
      let (body, after, n) := documentLines strip mark fuel after
      (line ++ '\n' :: body, after, n + 1)

/-- The text of a word with its quotes taken away. -/
private def markText (w : Word) : Bytes :=
  w.flatMap fun
    | .text t _ => t
    | _ => []

private def isQuotedPart : Part → Bool
  | .text _ q => q
  | _ => false

private def fallback? : Char → Option Fallback
  | '-' => some .default
  | '=' => some .assign
  | '?' => some .require
  | '+' => some .alternative
  | _ => none

private def openingOf (sign : Bytes) : Opening :=
  match String.ofList sign with
  | "<" => .read
  | "<>" => .both
  | ">|" => .clobber
  | ">>" => .append
  | ">&" | "<&" => .duplicate
  | "<<" | "<<-" => .document
  | _ => .write

private def isSpecial (c : Char) : Bool :=
  c.isDigit || c == '@' || c == '*' || c == '#' || c == '?' || c == '-' || c == '$' || c == '!'

/-- Puts the text of an alias in place of the token that names it, and says whether there was one.
-/
private def expandAlias (t : Token) : Reader Bool := do
  let c ← get
  let active := c.active.filter fun a => a.2 < c.rest.length
  match t with
  | .word w =>
    match (Word.literal? w).bind fun n => (c.aliases.lookup n).map (n, ·) with
    | some (name, value) =>
      if active.any (·.1 == name) then return false
      set { c with rest := value ++ c.rest, active := (name, c.rest.length) :: active }
      return true
    | none => return false
  | _ => return false

/-- The chain is not waited for. -/
def Chain.inBackground : Chain → Chain
  | .mk first rest _ => .mk first rest true

mutual

/-- The parts of a word up to where its surroundings end. -/
def parts (fuel : Nat) (ctx : Context) : Reader Word :=
  match fuel with
  | 0 => flaw "word unexpected"
  | fuel + 1 => do
    match ctx, ← rest with
    | .plain, [] | .document, [] => return []
    | .double, [] => flaw "Unterminated quoted string"
    | .braces true, [] => flaw "Unterminated quoted string"
    | .braces false, [] => flaw "Missing '\x7d'"
    | .sum _, [] => flaw "Missing '))'"
    | ctx, c :: _ =>
      if ctx == .plain && (isGap c || isOperator c) then return []
      else if ctx == .double && c == '"' then do skip 1; return []
      else
        match ctx, c with
        | .braces _, '\x7d' => do skip 1; return []
        | .sum 0, ')' => do
          match ← rest with
          | ')' :: ')' :: _ => do skip 2; return []
          | _ => flaw "Missing '))'"
        | .sum (d + 1), ')' => do
          skip 1
          return .text [')'] true :: (← parts fuel (.sum d))
        | .sum d, '(' => do
          skip 1
          return .text ['('] true :: (← parts fuel (.sum (d + 1)))
        | ctx, c => do
          let here ← part fuel ctx c
          return here ++ (← parts fuel ctx)

/-- The part of a word that begins with the character `c`. -/
def part (fuel : Nat) (ctx : Context) (c : Char) : Reader Word :=
  match fuel with
  | 0 => flaw "word unexpected"
  | fuel + 1 => do
    skip 1
    let bare := ctx == .plain || ctx == .braces false
    if c == '\\' then
      match ← rest with
      | [] => return [.text ['\\'] true]
      | '\n' :: _ => do skip 1; return []
      | d :: _ =>
        if ctx.escapes d then do skip 1; return [.text [d] true]
        else return [.text ['\\'] true]
    else if c == '\'' && bare then
      let t ← takeWhile (· != '\'')
      if (← rest).isEmpty then flaw "Unterminated quoted string"
      skip 1
      return [.text t true]
    else if c == '"' && ctx != .document then
      match ctx with
      | .sum _ => return []
      | _ => do
        let inner ← parts fuel .double
        return if inner.isEmpty then [.text [] true] else inner
    else if c == '$' then dollar fuel ctx.isQuoted
    else if c == backquote then
      match backquoted ctx.isQuoted (← rest) with
      | none => do
        skip (← rest).length
        flaw "EOF in backquote substitution"
      | some (t, n) => do
        skip n
        let after ← get
        set { after with rest := t }
        let body ← list fuel true (← token fuel)
        set after
        return [.output body.1 ctx.isQuoted]
    else return [.text [c] ctx.isQuoted]

/-- What stands behind a dollar sign. -/
def dollar (fuel : Nat) (quoted : Bool) : Reader Word :=
  match fuel with
  | 0 => flaw "word unexpected"
  | fuel + 1 => do
    match ← rest with
    | '(' :: '(' :: _ => do
      skip 2
      return [.sum (Word.glue (← parts fuel (.sum 0))) quoted]
    | '(' :: _ => do
      skip 1
      let (body, t) ← list fuel true (← token fuel)
      expect t ")"
      return [.output body quoted]
    | '\x7b' :: _ => do
      skip 1
      return [← braces fuel quoted]
    | c :: _ =>
      if isSpecial c then do
        skip 1
        return [.variable [c] .value quoted]
      else if isNameStart c then
        return [.variable (← takeWhile isNameChar) .value quoted]
      else return [.text ['$'] quoted]
    | [] => return [.text ['$'] quoted]

/-- A variable in braces. -/
def braces (fuel : Nat) (quoted : Bool) : Reader Part :=
  match fuel with
  | 0 => flaw "word unexpected"
  | fuel + 1 => do
    let measured := match ← rest with
      | '#' :: c :: _ => isNameStart c || (isSpecial c && c != '#')
      | _ => false
    if measured then skip 1
    let name ← match ← rest with
      | c :: _ =>
        if c.isDigit then takeWhile Char.isDigit
        else if isSpecial c then do skip 1; pure [c]
        else takeWhile isNameChar
      | [] => pure []
    let bad : Reader Part := do
      let _ ← parts fuel (.braces quoted)
      return .variable name .bad quoted
    let inner (n : Nat) (isQuoted : Bool) (use : Word → Use) : Reader Part := do
      skip n
      let w := Word.glue (← parts fuel (.braces isQuoted))
      return .variable name (use (if isQuoted then w else Word.homes false true w)) quoted
    let word (n : Nat) (use : Word → Use) : Reader Part := inner n quoted use
    let pattern (n : Nat) (use : Word → Use) : Reader Part := inner n false use
    if name.isEmpty then return ← bad
    match ← rest with
    | '\x7d' :: _ => do
      skip 1
      return .variable name (if measured then .length else .value) quoted
    | '%' :: '%' :: _ => pattern 2 (.trim true true)
    | '%' :: _ => pattern 1 (.trim true false)
    | '#' :: '#' :: _ => pattern 2 (.trim false true)
    | '#' :: _ => pattern 1 (.trim false false)
    | ':' :: c :: _ =>
      match fallback? c with
      | some f => word 2 (.fallback f true)
      | none => bad
    | c :: _ =>
      match fallback? c with
      | some f => word 1 (.fallback f false)
      | none => bad
    | [] => bad

/-- The next token. -/
def token (fuel : Nat) : Reader Token :=
  match fuel with
  | 0 => flaw "word unexpected"
  | fuel + 1 => do
    skipGaps (← rest).length
    match ← rest with
    | [] => return .stop
    | '\n' :: _ => do
      skip 1
      return .newline
    | c :: r =>
      match sign? operatorSigns (c :: r), sign? redirectSigns (c :: r) with
      | some s, _ => do skip s.length; return .operator s
      | none, some s => do skip s.length; return .redirect none s
      | none, none =>
        match c.isDigit, sign? redirectSigns r with
        | true, some s => do
          skip (s.length + 1)
          return .redirect (some (c.toNat - '0'.toNat)) s
        | _, _ => return .word (Word.glue (← parts fuel .plain))

/-- The first token that is no line end, from the given one on. -/
def pastNewlines (fuel : Nat) (t : Token) : Reader Token :=
  match fuel with
  | 0 => return t
  | fuel + 1 => do
    match t with
    | .newline => pastNewlines fuel (← token fuel)
    | t => return t

/-- Chains up to a token that ends the list, which is given too. -/
def list (fuel : Nat) (mayBeEmpty : Bool) (t : Token) : Reader (List Chain × Token) :=
  match fuel with
  | 0 => flaw "word unexpected"
  | fuel + 1 => do
    let t ← pastNewlines fuel t
    let isOver := match t with
      | .stop => true
      | t => mayBeEmpty && t.endsList
    if isOver then return ([], t)
    let (c, t) ← chain fuel t
    let goesOn := match t with
      | .newline => true
      | t => t.is ";" || t.is "&"
    if goesOn then
      let (cs, next) ← list fuel true (← token fuel)
      return ((if t.is "&" then c.inBackground else c) :: cs, next)
    else return ([c], t)

/-- The chains up to the end of a line. -/
def line (fuel : Nat) (t : Token) : Reader (List Chain) :=
  match fuel with
  | 0 => flaw "word unexpected"
  | fuel + 1 => do
    match t with
    | .stop | .newline => return []
    | t => do
      let (c, t) ← chain fuel t
      match t with
      | .stop | .newline => return [c]
      | t =>
        if t.is ";" || t.is "&" then
          return (if t.is "&" then c.inBackground else c) :: (← line fuel (← token fuel))
        else unexpected t

def chain (fuel : Nat) (t : Token) : Reader (Chain × Token) :=
  match fuel with
  | 0 => flaw "word unexpected"
  | fuel + 1 => do
    let (p, t) ← pipeline fuel t
    let (rest, t) ← links fuel t
    return (.mk p rest false, t)

/-- The rest of a chain. -/
def links (fuel : Nat) (t : Token) : Reader (List (Bool × Pipeline) × Token) :=
  match fuel with
  | 0 => flaw "word unexpected"
  | fuel + 1 => do
    if t.is "&&" || t.is "||" then
      let (p, next) ← pipeline fuel (← pastNewlines fuel (← token fuel))
      let (rest, next) ← links fuel next
      return ((t.is "&&", p) :: rest, next)
    else return ([], t)

def pipeline (fuel : Nat) (t : Token) : Reader (Pipeline × Token) :=
  match fuel with
  | 0 => flaw "word unexpected"
  | fuel + 1 => do
    let negated := t.is "!"
    let t ← if negated then token fuel else pure t
    let (cs, t) ← piped fuel t
    return (.mk negated cs, t)

/-- Commands with bars between them. -/
def piped (fuel : Nat) (t : Token) : Reader (List Command × Token) :=
  match fuel with
  | 0 => flaw "word unexpected"
  | fuel + 1 => do
    let (c, t) ← command fuel t
    if t.is "|" then
      let (cs, t) ← piped fuel (← pastNewlines fuel (← token fuel))
      return (c :: cs, t)
    else return ([c], t)

/-- A list that has to end with the given word. -/
def listTo (fuel : Nat) (last : String) : Reader (List Chain) :=
  match fuel with
  | 0 => flaw "word unexpected"
  | fuel + 1 => do
    let (cs, t) ← list fuel false (← token fuel)
    expect t last
    return cs

def command (fuel : Nat) (t : Token) : Reader (Command × Token) :=
  match fuel with
  | 0 => flaw "word unexpected"
  | fuel + 1 => do
    let start := (← get).line
    let finish (c : Command) : Reader (Command × Token) := do
      match ← redirects fuel (← token fuel) with
      | ([], t) => return (c, t)
      | (rs, t) => return (.redirected start c rs, t)
    if t.is "(" then
      let body ← listTo fuel ")"
      let (rs, t) ← redirects fuel (← token fuel)
      return (.subshell start body rs, t)
    else if t.is "\x7b" then finish (.group (← listTo fuel "\x7d"))
    else if t.is "if" then
      let (arms, otherwise) ← arms fuel
      finish (.branch arms otherwise)
    else if t.is "while" || t.is "until" then
      let condition ← listTo fuel "do"
      finish (.loop (t.is "while") condition (← listTo fuel "done"))
    else if t.is "for" then finish (← each fuel start)
    else if t.is "case" then finish (← choice fuel start)
    else if ← expandAlias t then command fuel (← token fuel)
    else
      match t with
      | .word w =>
        match Word.literal? w with
        | some k => if reserved.contains k then unexpected t else simple fuel start [] [] [] t
        | none => simple fuel start [] [] [] t
      | .redirect .. => simple fuel start [] [] [] t
      | t => unexpected t

/-- The redirections after a command. -/
def redirects (fuel : Nat) (t : Token) : Reader (List Redirect × Token) :=
  match fuel with
  | 0 => flaw "word unexpected"
  | fuel + 1 => do
    match t with
    | .redirect descriptor sign => do
      let r ← redirect fuel descriptor sign
      let (rs, t) ← redirects fuel (← token fuel)
      return (r :: rs, t)
    | t => return ([], t)

/-- The rest of a redirection. The lines of a here-document are taken out of the text. -/
def redirect (fuel : Nat) (descriptor : Option Nat) (sign : Bytes) : Reader Redirect :=
  match fuel with
  | 0 => flaw "word unexpected"
  | fuel + 1 => do
    let usual := if sign.head? = some '<' then 0 else 1
    match ← token fuel with
    | .word w =>
      match openingOf sign with
      | .document => do
        let c ← get
        let now := c.rest.takeWhile (· != '\n')
        let later := (c.rest.dropWhile (· != '\n')).drop 1
        let strip := sign == "<<-".toList
        let (body, after, n) := documentLines strip (markText w) (later.length + 1) later
        let word ← if w.any isQuotedPart then pure [.text body true]
          else do
            set { c with rest := body }
            let ps ← parts fuel .document
            pure (Word.glue ps)
        set { c with rest := now ++ '\n' :: after, taken := c.taken + n }
        return .mk (descriptor.getD usual) .document word
      | opening => return .mk (descriptor.getD usual) opening (Word.homes false true w)
    | t => unexpected t

/-- The rest of a simple command, which has the given assignments, words and redirections, last
first, and goes on with a token. -/
def simple (fuel start : Nat) (assigned : List (Bytes × Word)) (words : List Word)
    (rs : List Redirect) (t : Token) : Reader (Command × Token) :=
  match fuel with
  | 0 => flaw "word unexpected"
  | fuel + 1 => do
    match t with
    | .word w =>
      let next ← token fuel
      match words.isEmpty, Word.assignment? w with
      | true, some (name, value) =>
        simple fuel start ((name, Word.homes true true value) :: assigned) words rs next
      | _, _ => simple fuel start assigned (Word.homes false true w :: words) rs next
    | .redirect descriptor sign => do
      let r ← redirect fuel descriptor sign
      simple fuel start assigned words (r :: rs) (← token fuel)
    | t =>
      match t.is "(", assigned, words, rs with
      | true, [], [w], [] => do
        match ← token fuel with
        | .word _ => expecting "word" ")"
        | t => expect t ")"
        match Word.literal? w with
        | some name =>
          if !isName name then flaw "Bad function name"
          let (body, t) ← command fuel (← pastNewlines fuel (← token fuel))
          return (.define name body, t)
        | none => flaw "Bad function name"
      | _, _, _, _ =>
        return (.simple start assigned.reverse words.reverse rs.reverse, t)

/-- The conditions of a branch, after its first word or `elif`. -/
def arms (fuel : Nat) : Reader (List (List Chain × List Chain) × List Chain) :=
  match fuel with
  | 0 => flaw "word unexpected"
  | fuel + 1 => do
    let condition ← listTo fuel "then"
    let (body, t) ← list fuel false (← token fuel)
    if t.is "elif" then
      let (more, otherwise) ← arms fuel
      return ((condition, body) :: more, otherwise)
    else if t.is "else" then
      return ([(condition, body)], ← listTo fuel "fi")
    else
      expect t "fi"
      return ([(condition, body)], [])

def each (fuel start : Nat) : Reader Command :=
  match fuel with
  | 0 => flaw "word unexpected"
  | fuel + 1 => do
    let t ← token fuel
    let name ← match t with
      | .word w =>
        match Word.literal? w with
        | some n => if isName n then pure n else flaw "Bad for loop variable"
        | none => flaw "Bad for loop variable"
      | _ => flaw "Bad for loop variable"
    let t ← pastNewlines fuel (← token fuel)
    let (words, t) ← if t.is "in" then
        let (ws, t) ← wordList fuel (← token fuel)
        match t with
        | .newline => pure (some ws, ← pastNewlines fuel t)
        | t => if t.is ";" then pure (some ws, ← pastNewlines fuel (← token fuel)) else unexpected t
      else if t.is ";" then pure (none, ← pastNewlines fuel (← token fuel))
      else pure (none, t)
    expect t "do"
    return .each start name words (← listTo fuel "done")

/-- Words in a row. -/
def wordList (fuel : Nat) (t : Token) : Reader (List Word × Token) :=
  match fuel with
  | 0 => flaw "word unexpected"
  | fuel + 1 => do
    match t with
    | .word w => do
      let (ws, t) ← wordList fuel (← token fuel)
      return (Word.homes false true w :: ws, t)
    | t => return ([], t)

def choice (fuel start : Nat) : Reader Command :=
  match fuel with
  | 0 => flaw "word unexpected"
  | fuel + 1 => do
    match ← token fuel with
    | .word w => do
      expect (← pastNewlines fuel (← token fuel)) "in"
      return .choice start (Word.homes false true w) (← choiceArms fuel (← pastNewlines fuel (← token fuel)))
    | t => unexpected t

/-- The arms of a choice up to its last word. -/
def choiceArms (fuel : Nat) (t : Token) : Reader (List (List Word × List Chain)) :=
  match fuel with
  | 0 => flaw "word unexpected"
  | fuel + 1 => do
    if t.is "esac" then return []
    let t ← if t.is "(" then token fuel else pure t
    let patterns ← alternatives fuel t
    let (body, t) ← list fuel true (← token fuel)
    if t.is ";;" then
      return (patterns, body) :: (← choiceArms fuel (← pastNewlines fuel (← token fuel)))
    else if t.is "esac" then return [(patterns, body)]
    else expecting t.description ";;"

/-- Patterns with bars between them, up to a parenthesis. -/
def alternatives (fuel : Nat) (t : Token) : Reader (List Word) :=
  match fuel with
  | 0 => flaw "word unexpected"
  | fuel + 1 => do
    let w := match t with
      | .word w => Word.homes false true w
      | _ => []
    let t ← token fuel
    if t.is "|" then return w :: (← alternatives fuel (← token fuel))
    else
      expect t ")"
      return [w]

end

/-- The next line of a script, if there is one, and where it ends; or what is wrong with it. -/
def readLine (c : Cursor) : Except Defect (Option (List Chain × Cursor)) :=
  let size := 12 * c.rest.length + 64
  let one : Reader (Option (List Chain)) := do
    match ← token size with
    | .stop => return none
    | t => return some (← line size t)
  match one c with
  | .error d => .error d
  | .ok (none, _) => .ok none
  | .ok (some cs, c) => .ok (some (cs, c))

/-- The word that a text stands for in which only expansions have a meaning. -/
def template (t : Bytes) : Word :=
  match (parts (12 * t.length + 64) .document).run ⟨t, 1, 0, [], []⟩ with
  | .ok (w, _) => Word.glue w
  | .error _ => [.text t true]

end Graft.Shell
