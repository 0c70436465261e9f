import Graft.Shell.Tool.Awk.Token

/-!
# Reading report programs

A report program is read from its tokens by descent. The operators from weakest to strongest:
assignment, choice, or, and, membership, matching, comparison, concatenation, sums, products, signs,
input from commands, powers, steps and fields.
-/
namespace Graft.Shell.Tool.Awk

/-- What a name was used for. -/
inductive Kind where
  | unknown
  | scalar
  | table
  deriving DecidableEq, Repr

/-- What is wrong with a program, and where. -/
structure Flaw where
  line : Nat
  message : String
  /-- How many tokens were not yet read. -/
  left : Nat

structure Reader where
  rest : List Located
  names : Array Bytes
  kinds : Array Kind
  parameters : List Bytes
  ownKinds : Array Kind
  functions : List Bytes
  definitions : Array (Option Definition)
  /-- The calls: the function, how many arguments it gets, and the line. -/
  calls : List (Nat × Nat × Nat)
  ranges : Nat
  loops : Nat
  isInFunction : Bool
  isInRule : Bool

abbrev Reading := StateT Reader (Except Flaw)

namespace Reading

private def here : Reading Located := do
  return (← get).rest.headD ⟨.finish, 1, 0⟩

private def peek : Reading Token := do return (← here).token

private def advance : Reading Unit := modify fun r => { r with rest := r.rest.tail }

/-- The token behind the next one. -/
private def second : Reading Token := do
  return ((← get).rest.tail.headD ⟨.finish, 1, 0⟩).token

private def failAt (message : String) : Reading α := do
  throw ⟨(← here).line, message, (← get).rest.length⟩

/-- Fails because of the next token. -/
private def refuse : Reading α := do
  let l ← here
  match l.token with
  | .bad m => failAt m
  | .finish => failAt "missing \x7d near end of file"
  | .newline | .supplied | .sign ";" =>
    if 0 < l.depth then failAt ("missing ) near " ++ l.token.shown)
    else failAt ("syntax error at or near " ++ l.token.shown)
  | k => failAt ("syntax error at or near " ++ k.shown)

private def isSign (s : String) : Reading Bool := do
  match ← peek with
  | .sign x => return x == s
  | _ => return false

private def isWord (w : String) : Reading Bool := do
  match ← peek with
  | .word x => return x == w
  | _ => return false

private def expect (s : String) : Reading Unit := do
  if ← isSign s then advance else refuse

/-- Takes a sign if it comes next. -/
private def accept (s : String) : Reading Bool := do
  if ← isSign s then
    advance
    return true
  else return false

private def skipNewlines : Reading Unit :=
  modify fun r => { r with rest := r.rest.dropWhile fun l => l.token matches .newline }

/-! ## Names -/

/-- The variable of a name that is used in a way. -/
private def resolve (b : Bytes) (kind : Kind) : Reading Name := do
  let r : Reader ← get
  let clash (k : Kind) (owner : String) : Reading Unit :=
    if kind != .unknown && k != .unknown && k != kind then
      let what := if k == .table then "array " else "variable "
      failAt ("illegal reference to " ++ owner ++ what ++ String.ofList b)
    else pure ()
  match r.parameters.idxOf? b with
  | some i =>
    let k := r.ownKinds.getD i .unknown
    clash k "local "
    let ownKinds := if k == .unknown then r.ownKinds.setIfInBounds i kind else r.ownKinds
    set { r with ownKinds }
    return .own i
  | none =>
    match r.names.idxOf? b with
    | some i =>
      let k := r.kinds.getD i .unknown
      clash k ""
      let kinds := if k == .unknown then r.kinds.setIfInBounds i kind else r.kinds
      set { r with kinds }
      return .shared i
    | none =>
      set { r with names := r.names.push b, kinds := r.kinds.push kind }
      return .shared r.names.size

/-- The number of a function. -/
private def functionOf (b : Bytes) : Reading Nat := do
  let r : Reader ← get
  match r.functions.idxOf? b with
  | some i => return i
  | none =>
    if (r.names.idxOf? b).isSome then
      failAt ("illegal reference to variable " ++ String.ofList b)
    set { r with functions := r.functions ++ [b], definitions := r.definitions.push none }
    return r.functions.length

/-! ## Expressions -/

def regexDialect : Regex.Dialect := ⟨true, false, true, true⟩

/-- What is said about an expression that is none. -/
def regexMessage (f : Regex.Flaw) (b : Bytes) : String :=
  let reason := match f with
    | .openGroup => "missing ')'"
    | .closedGroup => "missing '('"
    | .openBracket | .emptyBracket | .badClass | .badRange => "bad class -- [], [^] or ["
    | _ => "missing operand"
  "regular expression compile failed (" ++ reason ++ ")\n" ++ String.ofList b

private def regexOf (b : Bytes) : Reading Regex.Program := do
  match Regex.compile regexDialect b with
  | .ok p => return p
  | .error f => failAt (regexMessage f b)

/-- A text where an expression is expected is read as one. -/
private def literalRegex : Expression → Reading Expression
  | .text b => do return .regex (← regexOf b)
  | e => return e

private def comparisonOf? : Token → Option Comparison
  | .sign "<" => some .less
  | .sign "<=" => some .lessOrEqual
  | .sign "==" => some .equal
  | .sign "!=" => some .different
  | .sign ">" => some .greater
  | .sign ">=" => some .greaterOrEqual
  | _ => none

private def assignmentOf? : Token → Option (Option Operation)
  | .sign "=" => some none
  | .sign "+=" => some (some .add)
  | .sign "-=" => some (some .subtract)
  | .sign "*=" => some (some .multiply)
  | .sign "/=" => some (some .divide)
  | .sign "%=" => some (some .remainder)
  | .sign "^=" => some (some .power)
  | _ => none

/-- Whether a token can begin an operand that is joined to the one before. -/
private def startsOperand : Token → Bool
  | .number .. | .text _ | .regex _ | .name _ | .call _ | .function .. => true
  | .sign s => s == "(" || s == "$" || s == "!" || s == "++" || s == "--"
  | .word w => ["getline", "gsub", "sub", "match", "split"].contains w
  | _ => false

/-- Reads operands with operators between them, from left to right. -/
private def chain (operand : Reading Expression) (operator? : Token → Option (Expression →
    Expression → Expression)) : Nat → Expression → Reading Expression
  | 0, a => return a
  | fuel + 1, a => do
    match operator? (← peek) with
    | none => return a
    | some f =>
      advance
      chain operand operator? fuel (f a (← operand))

private def sumOf? : Token → Option (Expression → Expression → Expression)
  | .sign "+" => some (.calculate .add)
  | .sign "-" => some (.calculate .subtract)
  | _ => none

private def productOf? : Token → Option (Expression → Expression → Expression)
  | .sign "*" => some (.calculate .multiply)
  | .sign "/" => some (.calculate .divide)
  | .sign "%" => some (.calculate .remainder)
  | _ => none

private def matchOf? : Token → Option (Expression → Expression → Expression)
  | .sign "~" => some (.fits false)
  | .sign "!~" => some (.fits true)
  | _ => none

mutual

/-- An expression. `out` says that a greater sign begins a redirection. -/
def expression (fuel : Nat) (out : Bool) : Reading Expression :=
  match fuel with
  | 0 => refuse
  | fuel + 1 => do
    let c ← disjunction fuel out
    if ← accept "?" then
      let a ← expression fuel out
      expect ":"
      let b ← expression fuel out
      return .choose c a b
    else return c

private def disjunction (fuel : Nat) (out : Bool) : Reading Expression :=
  match fuel with
  | 0 => refuse
  | fuel + 1 => do
    chain (conjunction fuel out) (fun k => match k with
      | .sign "||" => some .or
      | _ => none) fuel (← conjunction fuel out)

private def conjunction (fuel : Nat) (out : Bool) : Reading Expression :=
  match fuel with
  | 0 => refuse
  | fuel + 1 => do
    chain (membership fuel out) (fun k => match k with
      | .sign "&&" => some .and
      | _ => none) fuel (← membership fuel out)

private def membership (fuel : Nat) (out : Bool) : Reading Expression :=
  match fuel with
  | 0 => refuse
  | fuel + 1 => do
    let a ← chain (do literalRegex (← comparison fuel out)) matchOf? fuel (← comparison fuel out)
    keysIn fuel a

private def keysIn (fuel : Nat) (a : Expression) : Reading Expression :=
  match fuel with
  | 0 => refuse
  | fuel + 1 => do
    if ← isWord "in" then
      advance
      match ← peek with
      | .name b =>
        let n ← resolve b .table
        advance
        keysIn fuel (.isKey [a] n)
      | _ => refuse
    else return a

private def comparison (fuel : Nat) (out : Bool) : Reading Expression :=
  match fuel with
  | 0 => refuse
  | fuel + 1 => do
    chain (concatenation fuel out) (fun k =>
      if out && k matches .sign ">" then none else (comparisonOf? k).map .compare)
      fuel (← concatenation fuel out)

/-- Operands side by side, or an assignment. -/
private def concatenation (fuel : Nat) (out : Bool) : Reading Expression :=
  match fuel with
  | 0 => refuse
  | fuel + 1 => do
    let a ← sum fuel
    match a, assignmentOf? (← peek) with
    | .place p, some o =>
      advance
      let e ← expression fuel out
      return match o with
        | none => .assign p e
        | some o => .update o p e
    | a, _ => joined fuel a

private def joined (fuel : Nat) (a : Expression) : Reading Expression :=
  match fuel with
  | 0 => refuse
  | fuel + 1 => do
    if startsOperand (← peek) then joined fuel (.join a (← sum fuel)) else return a

private def sum (fuel : Nat) : Reading Expression :=
  match fuel with
  | 0 => refuse
  | fuel + 1 => do chain (product fuel) sumOf? fuel (← product fuel)

private def product (fuel : Nat) : Reading Expression :=
  match fuel with
  | 0 => refuse
  | fuel + 1 => do chain (signed fuel) productOf? fuel (← signed fuel)

private def signed (fuel : Nat) : Reading Expression :=
  match fuel with
  | 0 => refuse
  | fuel + 1 => do
    if ← accept "!" then return .not (← signed fuel)
    else if ← accept "-" then return .negative (← signed fuel)
    else if ← accept "+" then return .positive (← signed fuel)
    else piped fuel (← power fuel)

/-- What follows a command whose output is read. -/
private def piped (fuel : Nat) (a : Expression) : Reading Expression :=
  match fuel with
  | 0 => refuse
  | fuel + 1 => do
    if (← isSign "|") && ((← second) matches .word "getline") then
      advance
      advance
      let p ← target fuel
      piped fuel (.readCommand p a)
    else return a

private def power (fuel : Nat) : Reading Expression :=
  match fuel with
  | 0 => refuse
  | fuel + 1 => do
    let a ← stepped fuel
    if ← accept "^" then
      match ← peek with
      | .sign "-" | .sign "+" | .sign "!" => return .calculate .power a (← signed fuel)
      | _ => return .calculate .power a (← power fuel)
    else return a

private def stepped (fuel : Nat) : Reading Expression :=
  match fuel with
  | 0 => refuse
  | fuel + 1 => do
    match ← primary fuel with
    | .place p =>
      if ← accept "++" then return .step p 1 false
      else if ← accept "--" then return .step p (-1) false
      else return .place p
    | a => return a

/-- The place that input is read into. -/
private def target (fuel : Nat) : Reading (Option Place) :=
  match fuel with
  | 0 => refuse
  | fuel + 1 => do
    match ← peek with
    | .name _ | .sign "$" =>
      match ← primary fuel with
      | .place p => return some p
      | _ => refuse
    | _ => return none

private def place (fuel : Nat) : Reading Place :=
  match fuel with
  | 0 => refuse
  | fuel + 1 => do
    match ← peek with
    | .name _ | .sign "$" =>
      match ← primary fuel with
      | .place p => return p
      | _ => refuse
    | .sign "(" =>
      advance
      let p ← place fuel
      expect ")"
      return p
    | _ => refuse

/-- Expressions up to a closing sign. -/
private def arguments (fuel : Nat) (close : String) : Reading (List Expression) :=
  match fuel with
  | 0 => refuse
  | fuel + 1 => do
    if ← accept close then return []
    let a ← expression fuel false
    moreArguments fuel close [a]

private def moreArguments (fuel : Nat) (close : String) (done : List Expression) :
    Reading (List Expression) :=
  match fuel with
  | 0 => refuse
  | fuel + 1 => do
    if ← accept close then return done.reverse
    expect ","
    let a ← expression fuel false
    moreArguments fuel close (a :: done)

private def primary (fuel : Nat) : Reading Expression :=
  match fuel with
  | 0 => refuse
  | fuel + 1 => do
    match ← peek with
    | .number x _ =>
      advance
      return .number x
    | .text b =>
      advance
      return .text b
    | .regex b =>
      let p ← regexOf b
      advance
      return .regex p
    | .sign "(" =>
      advance
      let a ← expression fuel false
      if ← isSign "," then
        let keys ← moreArguments fuel ")" [a]
        if !(← isWord "in") then refuse
        advance
        match ← peek with
        | .name b =>
          let n ← resolve b .table
          advance
          return .isKey keys n
        | _ => refuse
      else
        expect ")"
        return .group a
    | .sign "$" =>
      advance
      match ← peek with
      | .sign "++" | .sign "--" => return .place (.field (← primary fuel))
      | .sign "-" | .sign "+" | .sign "!" => return .place (.field (← signed fuel))
      | _ => return .place (.field (← primary fuel))
    | .sign "++" =>
      advance
      return .step (← place fuel) 1 true
    | .sign "--" =>
      advance
      return .step (← place fuel) (-1) true
    | .name b =>
      if (← get).functions.contains b then
        advance
        refuse
      else if (← second) matches .sign "[" then
        let n ← resolve b .table
        advance
        advance
        let keys ← arguments fuel "]"
        if keys.isEmpty then refuse
        return .place (.element n keys)
      else
        let n ← resolve b .scalar
        advance
        return .place (.named n)
    | .call b =>
      let f ← functionOf b
      let line := (← here).line
      advance
      advance
      let args ← callArguments fuel []
      modify fun r => { r with calls := (f, args.length, line) :: r.calls }
      return .call f args
    | .function f shown => function fuel f shown
    | .word w => special fuel w
    | _ => refuse

/-- The arguments of a function of the program: a name may be that of a table. -/
private def callArguments (fuel : Nat) (done : List Expression) : Reading (List Expression) :=
  match fuel with
  | 0 => refuse
  | fuel + 1 => do
    if done.isEmpty then
      if ← accept ")" then return []
    let a ← match ← peek, ← second with
      | .name b, .sign "," | .name b, .sign ")" =>
        let n ← resolve b .unknown
        advance
        pure (.place (.named n))
      | _, _ => expression fuel false
    if ← accept ")" then return (a :: done).reverse
    expect ","
    callArguments fuel (a :: done)

private def function (fuel : Nat) (f : Function) (shown : String) : Reading Expression :=
  match fuel with
  | 0 => refuse
  | fuel + 1 => do
    advance
    if !(← isSign "(") then
      if f == .length then return .function .length []
      refuse
    advance
    if f == .length then
      match ← peek, ← second with
      | .name b, .sign ")" =>
        let n ← resolve b .unknown
        advance
        advance
        return .sizeOf n
      | .sign ")", _ =>
        advance
        return .function .length []
      | _, _ =>
        let a ← expression fuel false
        expect ")"
        return .function .length [a]
    else
      let args ← arguments fuel ")"
      let (least, most) := f.arguments
      if args.length < least || most < args.length then
        failAt ("wrong number of arguments in call to " ++ shown)
      return .function f args

/-- What begins with a word: input, and functions that take expressions or tables. -/
private def special (fuel : Nat) (w : String) : Reading Expression :=
  match fuel with
  | 0 => refuse
  | fuel + 1 => do
    if w == "getline" then
      advance
      let p ← target fuel
      if ← accept "<" then return .readFile p (← power fuel)
      return .readNext p
    else if w == "sub" || w == "gsub" then
      advance
      expect "("
      let r ← literalRegex (← expression fuel false)
      expect ","
      let new ← expression fuel false
      let p ← if ← accept "," then place fuel else pure (.field (.number 0))
      expect ")"
      return .substitute (w == "gsub") r new p
    else if w == "match" then
      advance
      expect "("
      let a ← expression fuel false
      expect ","
      let r ← literalRegex (← expression fuel false)
      expect ")"
      return .search a r
    else if w == "split" then
      advance
      expect "("
      let a ← expression fuel false
      expect ","
      match ← peek with
      | .name b =>
        let n ← resolve b .table
        advance
        let separator ← if ← accept "," then some <$> expression fuel false else pure none
        expect ")"
        return .split a n separator
      | _ => refuse
    else refuse

end

/-! ## Statements -/

/-- Takes the end of a statement. -/
private def separator : Reading Unit := do
  match ← peek with
  | .newline | .supplied | .sign ";" => advance
  | _ => refuse

private def isEnd : Token → Bool
  | .newline | .supplied | .sign ";" => true
  | _ => false

/-- Whether parentheses at the beginning hold the whole list of what is printed. -/
private def isList : Nat → Bool → List Located → Bool
  | _, _, [] => false
  | depth, hasComma, l :: rest =>
    match l.token with
    | .sign "(" | .sign "[" => isList (depth + 1) hasComma rest
    | .sign ")" | .sign "]" =>
      if depth = 1 then
        let next := (rest.headD ⟨.finish, 0, 0⟩).token
        hasComma && (isEnd next || next matches .sign ">" || next matches .sign ">>" ||
          next matches .sign "|")
      else isList (depth - 1) hasComma rest
    | .sign "," => isList depth (hasComma || depth == 1) rest
    | .newline | .supplied | .finish => false
    | _ => isList depth hasComma rest

private def printed (fuel : Nat) :
    Reading (List Expression × Option (Redirection × Expression)) := do
  let isOut : Token → Bool := fun k =>
    k matches .sign ">" || k matches .sign ">>" || k matches .sign "|"
  let rec more : Nat → List Expression → Reading (List Expression)
    | 0, _ => refuse
    | n + 1, done => do
      let a ← expression fuel true
      if ← accept "," then more n (a :: done) else return (a :: done).reverse
  let first ← peek
  let args ←
    if isEnd first || isOut first then pure []
    else if (first matches .sign "(") && ((← second) matches .sign ")") then do
      advance
      advance
      pure []
    else if (first matches .sign "(") && isList 0 false (← get).rest then do
      advance
      arguments fuel ")"
    else more fuel []
  let kind? : Option Redirection := match ← peek with
    | .sign ">" => some .file
    | .sign ">>" => some .append
    | .sign "|" => some .pipe
    | _ => none
  match kind? with
  | none =>
    separator
    return (args, none)
  | some kind =>
    advance
    let e ← expression fuel false
    separator
    return (args, some (kind, e))

/-- Reads a part that is inside a loop. -/
private def looped (body : Reading α) : Reading α := do
  modify fun r => { r with loops := r.loops + 1 }
  let a ← body
  modify fun r => { r with loops := r.loops - 1 }
  return a

mutual

private def statement (fuel : Nat) : Reading Statement :=
  match fuel with
  | 0 => refuse
  | fuel + 1 => do
    match ← peek with
    | .sign "\x7b" => block fuel
    | .newline | .supplied | .sign ";" =>
      advance
      return .block []
    | .word w => worded fuel w
    | _ =>
      let e ← expression fuel false
      separator
      return .compute e

private def block (fuel : Nat) : Reading Statement :=
  match fuel with
  | 0 => refuse
  | fuel + 1 => do
    expect "\x7b"
    return .block (← statements fuel [])

private def statements (fuel : Nat) (done : List Statement) : Reading (List Statement) :=
  match fuel with
  | 0 => refuse
  | fuel + 1 => do
    if ← accept "\x7d" then return done.reverse
    let s ← statement fuel
    statements fuel (s :: done)

/-- A statement that begins with a word. -/
private def worded (fuel : Nat) (w : String) : Reading Statement :=
  match fuel with
  | 0 => refuse
  | fuel + 1 => do
    let simply (s : Statement) : Reading Statement := do
      advance
      separator
      return s
    let withValue (f : Option Expression → Statement) : Reading Statement := do
      advance
      if isEnd (← peek) then
        advance
        return f none
      else
        let e ← expression fuel false
        separator
        return f (some e)
    match w with
    | "print" =>
      advance
      let (args, target) ← printed fuel
      return .print args target
    | "printf" =>
      advance
      let (args, target) ← printed fuel
      if args.isEmpty then failAt "no arguments in call to printf"
      return .printf args target
    | "if" =>
      advance
      expect "("
      let c ← expression fuel false
      expect ")"
      skipNewlines
      let a ← statement fuel
      if ← isWord "else" then
        advance
        skipNewlines
        return .choose c a (some (← statement fuel))
      else return .choose c a none
    | "while" =>
      advance
      expect "("
      let c ← expression fuel false
      expect ")"
      skipNewlines
      return .loop c (← looped (statement fuel))
    | "do" =>
      advance
      skipNewlines
      let body ← looped (statement fuel)
      if !(← isWord "while") then refuse
      advance
      expect "("
      let c ← expression fuel false
      expect ")"
      separator
      return .doLoop body c
    | "for" =>
      advance
      expect "("
      match ← peek, ← second with
      | .name a, .word "in" =>
        let n ← resolve a .scalar
        advance
        advance
        match ← peek with
        | .name b =>
          let t ← resolve b .table
          advance
          expect ")"
          skipNewlines
          return .forEach n t (← looped (statement fuel))
        | _ => refuse
      | _, _ =>
        let optional (stop : String) : Reading (Option Expression) := do
          if ← accept stop then return none
          let e ← expression fuel false
          expect stop
          return some e
        let first ← optional ";"
        let c ← optional ";"
        let last ← optional ")"
        skipNewlines
        return .count first c last (← looped (statement fuel))
    | "break" =>
      if (← get).loops = 0 then failAt "break statement outside of loop"
      simply .leave
    | "continue" =>
      if (← get).loops = 0 then failAt "continue statement outside of loop"
      simply .again
    | "next" =>
      if !(← get).isInRule then failAt "improper use of next"
      simply .next
    | "nextfile" =>
      if !(← get).isInRule then failAt "improper use of nextfile"
      simply .nextFile
    | "exit" => withValue .exit
    | "return" =>
      if !(← get).isInFunction then failAt "return outside function body"
      withValue .back
    | "delete" =>
      advance
      match ← peek with
      | .name b =>
        let n ← resolve b .table
        advance
        if ← accept "[" then
          let keys ← arguments fuel "]"
          separator
          return .delete n (some keys)
        else
          separator
          return .delete n none
      | _ => refuse
    | "getline" | "sub" | "gsub" | "match" | "split" =>
      let e ← expression fuel false
      separator
      return .compute e
    | _ => refuse

end

/-! ## Rules -/

/-- The parameters of a function up to the closing parenthesis. -/
private def parameters (name : Bytes) : Nat → List Bytes → Reading (List Bytes)
  | 0, _ => refuse
  | fuel + 1, done => do
    match ← peek with
    | .name b =>
      if b == name then failAt "function parameter cannot be the function"
      advance
      if ← accept ")" then return (b :: done).reverse
      expect ","
      parameters name fuel (b :: done)
    | .sign ")" =>
      if !done.isEmpty then refuse
      advance
      return []
    | _ => refuse

private def definition (fuel : Nat) : Reading Unit := do
  advance
  match ← peek with
  | .name b | .call b =>
    let f ← functionOf b
    if ((← get).definitions.getD f none).isSome then
      failAt ("redefinition of " ++ String.ofList b)
    advance
    expect "("
    let ps ← parameters b fuel []
    skipNewlines
    modify fun r => { r with
      parameters := ps, ownKinds := Array.replicate ps.length .unknown, isInFunction := true }
    let body ← block fuel
    modify fun r => { r with
      parameters := []
      ownKinds := #[]
      isInFunction := false
      definitions := r.definitions.setIfInBounds f (some ⟨b, ps.length, body⟩) }
  | _ => refuse

/-- What stands on the top level of a program. -/
private inductive Item where
  | start (s : Statement)
  | rule (r : Rule)
  | finish (s : Statement)

private def printRecord : Statement := .print [] none

/-- Reads a part that is done for records. -/
private def inRule (body : Reading α) : Reading α := do
  modify fun r => { r with isInRule := true }
  let a ← body
  modify fun r => { r with isInRule := false }
  return a

private def items (fuel : Nat) : Nat → List Item → Reading (List Item)
  | 0, _ => refuse
  | n + 1, done => do
    match ← peek with
    | .finish => return done.reverse
    | .newline | .sign ";" =>
      advance
      items fuel n done
    | .word "function" =>
      definition fuel
      items fuel n done
    | .word "BEGIN" =>
      advance
      items fuel n (.start (← block fuel) :: done)
    | .word "END" =>
      advance
      items fuel n (.finish (← block fuel) :: done)
    | .sign "\x7b" => items fuel n (.rule ⟨.always, ← inRule (block fuel)⟩ :: done)
    | _ =>
      let a ← expression fuel false
      let pattern ← if ← accept "," then do
          let b ← expression fuel false
          let r : Reader ← get
          set { r with ranges := r.ranges + 1 }
          pure (.range r.ranges a b)
        else pure (.test a)
      if ← isSign "\x7b" then
        items fuel n (.rule ⟨pattern, ← inRule (block fuel)⟩ :: done)
      else
        separator
        items fuel n (.rule ⟨pattern, printRecord⟩ :: done)

end Reading

/-- How deep expressions and statements may nest. -/
private def maxNesting : Nat := 100000

/-- The flaws that signs are which close nothing, among the first tokens. -/
private def extraFlaws (count : Nat) (extra : List (Nat × Located)) : List Flaw :=
  extra.filterMap fun (n, l) => if n ≤ count then some ⟨l.line, l.token.shown, 0⟩ else none

/-- Reads a program. Functions that are called and not defined are flaws as well. -/
def Program.parse (t : Bytes) : Except (List Flaw) Program := do
  let (ts, extra) := tokens t
  let special := (specialNames.map String.toList).toArray
  let kinds := special.map fun b =>
    if b == "ENVIRON".toList || b == "ARGV".toList then Kind.table else Kind.scalar
  let start : Reader := ⟨ts, special, kinds, [], #[], [], #[], [], 0, 0, false, false⟩
  match (Reading.items maxNesting (ts.length + 1) []).run start with
  | .error f => .error (extraFlaws (ts.length - f.left) extra ++ [f])
  | .ok (items, r) =>
    if !extra.isEmpty then .error (extraFlaws ts.length extra)
    let line := (ts.getLast?.map (·.line)).getD 1
    let absent := (r.functions.zip r.definitions.toList).filterMap fun (b, d) =>
      if d.isNone then some (⟨line, "function " ++ String.ofList b ++ " never defined", 0⟩ : Flaw)
      else none
    let crowded := r.calls.reverse.filterMap fun (f, count, line) =>
      match r.definitions.getD f none with
      | some d =>
        if d.parameters < count then
          some (⟨line, "too many arguments in call to " ++ String.ofList d.name, 0⟩ : Flaw)
        else none
      | none => none
    if !absent.isEmpty || !crowded.isEmpty then .error (absent.reverse ++ crowded)
    else
      .ok {
        starts := items.filterMap fun i => match i with
          | .start s => some s
          | _ => none
        rules := items.filterMap fun i => match i with
          | .rule r => some r
          | _ => none
        ends := items.filterMap fun i => match i with
          | .finish s => some s
          | _ => none
        definitions := r.definitions.filterMap id
        names := r.names }

end Graft.Shell.Tool.Awk
