import Graft.Position
import Graft.Token.Scan
import Graft.Tree

/-!
# Building span trees

The tree is built in one pass over the significant tokens. An item is a name, the longest chain of
identifiers joined by touching points, and then either arguments up to the end of the line or a
block. Inside brackets the ends of lines do not count.
-/
namespace Graft.Tree

/-- What is wrong with a sequence of tokens. -/
inductive Flaw where
  | unclosedBlock (name : Text)
  | unclosedBracket (bracket name : Text)
  | unmatched (bracket : Text)
  | mismatched (close opening : Text)
  | expectedName (found : Text)
  | expectedArgument (name : Text)
  deriving DecidableEq, Repr

def Flaw.message : Flaw → String
  | .unclosedBlock name => s!"unclosed `\x7b` for block `{String.ofList name}`"
  | .unclosedBracket bracket name =>
    s!"unclosed `{String.ofList bracket}` in arguments of `{String.ofList name}`"
  | .unmatched bracket => s!"unmatched `{String.ofList bracket}`"
  | .mismatched close opening =>
    s!"`{String.ofList close}` does not close `{String.ofList opening}`"
  | .expectedName found => s!"expected a name, found `{String.ofList found}`"
  | .expectedArgument name => s!"expected `\x7b` or an argument after `{String.ofList name}`"

/-- A flaw and the offset it is reported at. -/
structure Fault where
  flaw : Flaw
  offset : Nat
  deriving DecidableEq, Repr

/-- A name in the source. -/
structure Head where
  name : Text
  start : Nat
  stop : Nat
  deriving DecidableEq, Repr

/-- The item that is being read. Arguments and open brackets are kept last first. -/
inductive Pending where
  /-- Between items. -/
  | none
  /-- After a name. -/
  | named (head : Head)
  /-- After a name and a point that touches it. -/
  | pointed (head : Head) (point : Token)
  /-- After a name and the end of its line. -/
  | broken (head : Head)
  /-- After at least one argument. -/
  | arguments (head : Head) (args brackets : List Token)
  deriving DecidableEq, Repr

/-- A block whose closing brace is still to come; `before` holds the nodes that precede it in the
scope around it, last first. -/
structure Open where
  head : Head
  header : List Token
  opening : Nat
  before : List Node

/-- The nodes read so far in the innermost scope, last first, the open blocks around it, innermost
first, and the item that is being read. -/
structure State where
  nodes : List Node
  blocks : List Open
  pending : Pending

def State.start : State := ⟨[], [], .none⟩

private def fault {α : Type} (flaw : Flaw) (offset : Nat) : Except Fault α := .error ⟨flaw, offset⟩

/-- The bracket that a closing bracket answers. -/
def opener? (t : Token) : Option Char :=
  if t.isSymbol ')' then some '('
  else if t.isSymbol ']' then some '['
  else if t.isSymbol '}' then some '{'
  else none

def isOpener (t : Token) : Bool :=
  t.isSymbol '(' || t.isSymbol '[' || t.isSymbol '{'

/-- The open brackets after an argument token. -/
def bracketsAfter (brackets : List Token) (t : Token) : Except Fault (List Token) :=
  if isOpener t then .ok (t :: brackets)
  else
    match opener? t with
    | none => .ok brackets
    | some c =>
      match brackets with
      | [] => fault (.unmatched t.text) t.start
      | b :: bs => if b.isSymbol c then .ok bs else fault (.mismatched t.text b.text) t.start

/-- Ends a statement; `last` is its last argument. -/
def State.endStatement (s : State) (head : Head) (last : Token) (args : List Token) : State :=
  ⟨.statement head.name ⟨head.start, last.stop⟩ (last :: args).reverse :: s.nodes, s.blocks, .none⟩

/-- Enters the block that opens at the token `brace`. -/
def State.enter (s : State) (head : Head) (args : List Token) (brace : Token) : State :=
  ⟨[], ⟨head, args.reverse, brace.start, s.nodes⟩ :: s.blocks, .none⟩

/-- Leaves the innermost block at its closing brace. -/
def State.leave (s : State) (brace : Token) : Except Fault State :=
  match s.blocks with
  | [] => fault (.unmatched brace.text) brace.start
  | b :: bs =>
    let node := Node.block b.head.name ⟨b.head.start, brace.stop⟩ b.header
      ⟨b.opening, brace.start⟩ s.nodes.reverse
    .ok ⟨node :: b.before, bs, .none⟩

/-- A token between items. -/
def State.between (s : State) (t : Token) : Except Fault State :=
  if t.kind = .newline || t.isSymbol ';' then .ok s
  else if t.isSymbol '}' then s.leave t
  else if t.kind = .identifier then .ok { s with pending := .named ⟨t.text, t.start, t.stop⟩ }
  else fault (.expectedName t.text) t.start

/-- A token after a name and the arguments `args`, inside the open `brackets`. -/
def State.argue (s : State) (head : Head) (args brackets : List Token) (t : Token) :
    Except Fault State :=
  if brackets.isEmpty && (t.kind = .newline || t.isSymbol ';' || t.isSymbol '}') then
    match args with
    | last :: rest => (s.endStatement head last rest).between t
    | [] =>
      if t.kind = .newline then .ok { s with pending := .broken head }
      else fault (.expectedArgument head.name) head.stop
  else if brackets.isEmpty && t.isSymbol '{' then .ok (s.enter head args t)
  else if t.kind = .newline then .ok { s with pending := .arguments head args brackets }
  else do
    let bs ← bracketsAfter brackets t
    return { s with pending := .arguments head (t :: args) bs }

/-- One token. -/
def State.step (s : State) (t : Token) : Except Fault State :=
  match s.pending with
  | .none => s.between t
  | .named head =>
    if t.isSymbol '.' && head.stop == t.start then .ok { s with pending := .pointed head t }
    else s.argue head [] [] t
  | .pointed head point =>
    if t.kind = .identifier && point.touches t then
      .ok { s with pending := .named ⟨head.name ++ '.' :: t.text, head.start, t.stop⟩ }
    else s.argue head [point] [] t
  | .broken head =>
    if t.kind = .newline then .ok s
    else if t.isSymbol '{' then .ok (s.enter head [] t)
    else fault (.expectedArgument head.name) head.stop
  | .arguments head args brackets => s.argue head args brackets t

/-- The nodes of the document once there are no more tokens. -/
def State.finish (s : State) : Except Fault (List Node) :=
  let close (s : State) : Except Fault (List Node) :=
    match s.blocks with
    | [] => .ok s.nodes.reverse
    | b :: _ => fault (.unclosedBlock b.head.name) b.opening
  match s.pending with
  | .none => close s
  | .named head | .broken head => fault (.expectedArgument head.name) head.stop
  | .pointed head point => close (s.endStatement head point [])
  | .arguments head args brackets =>
    match brackets, args with
    | b :: _, _ => fault (.unclosedBracket b.text head.name) b.start
    | [], last :: rest => close (s.endStatement head last rest)
    | [], [] => fault (.expectedArgument head.name) head.stop

/-- The nodes that the significant tokens of a script form. -/
def build (ts : List Token) : Except Fault (List Node) := do
  let s ← ts.foldlM State.step .start
  s.finish

end Graft.Tree

namespace Graft

/-- Why a script has no tree. -/
inductive ParseError.Reason where
  | flaw (flaw : Tree.Flaw)
  /-- What a grammar helper says. -/
  | reported (text : Text)
  deriving DecidableEq, Repr

/-- A script that has no tree: why and where. -/
structure ParseError where
  reason : ParseError.Reason
  position : Position
  deriving DecidableEq, Repr

def ParseError.message (e : ParseError) : String :=
  match e.reason with
  | .flaw f => f.message
  | .reported t => String.ofList t

/-- A script that cannot be read. -/
inductive SyntaxError where
  | lex (error : LexError)
  | parse (error : ParseError)
  deriving DecidableEq, Repr

namespace SyntaxError

def message : SyntaxError → String
  | lex e => e.message
  | parse e => s!"parse error at {e.position.display}: {e.message}"

def position : SyntaxError → Position
  | lex e => e.position
  | parse e => e.position

end SyntaxError

/-- Reads a script. -/
def Document.parse (source : Text) : Except SyntaxError Document := do
  let tokens ← (Token.scan source).mapError .lex
  let nodes ← (Tree.build (Token.significant tokens)).mapError fun f =>
    .parse ⟨.flaw f.flaw, .locate source f.offset⟩
  return ⟨source, nodes⟩

end Graft
