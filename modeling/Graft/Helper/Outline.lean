import Graft.Data
import Graft.Token.Scan
import Graft.Tree

/-!
# Outlines

An outline is a span tree as a grammar helper reports it: names and offsets, nothing else. Nothing
in it is taken on trust. Converting an outline checks every offset against the source, and reads the
header and argument tokens from the source itself.
-/
namespace Graft

/-- A node as reported. -/
inductive Outline where
  | block (name : Text) (start stop opening closing : Nat) (children : List Outline)
  | statement (name : Text) (start stop : Nat)
  deriving Repr

namespace Outline

/-- Why an outline does not fit its source. -/
inductive Flaw where
  | badSpan (start stop : Nat)
  | badBraces (name : Text)
  | lex (error : LexError)
  deriving DecidableEq, Repr

def Flaw.message : Flaw → String
  | badSpan start stop => s!"span {start}..{stop} is outside its parent or out of order"
  | badBraces name => s!"block `{String.ofList name}` has bad brace offsets"
  | lex e => e.message

/-- A span that lies inside `parent`, not before `last`, and between characters. -/
def checkSpan (source : Text) (parent : Span) (last start stop : Nat) : Except Flaw Span :=
  if start ≤ stop && parent.contains ⟨start, stop⟩ && last ≤ start && source.isBoundary start
      && source.isBoundary stop then .ok ⟨start, stop⟩
  else .error (.badSpan start stop)

/-- The tokens of a part of the source that carry structure, line feeds left out. -/
def tokensIn (source : Text) (start stop : Nat) : Except Flaw (List Token) :=
  match Token.scan (source.slice start stop) with
  | .ok ts =>
    .ok (((Token.significant ts).filter fun t => t.kind ≠ .newline).map (Token.shift start))
  | .error e => .error (.lex e)

/-- The offset after the name at `start`, if it stands there before `limit`; else `start`. -/
def nameEnd (source : Text) (start limit : Nat) (name : Text) : Nat :=
  if name.isPrefixOf (source.slice start limit) then start + name.size else start

mutual

/-- Converts a node that has to lie inside `parent` and not before `last`. -/
def convert (source : Text) (parent : Span) (last : Nat) : Outline → Except Flaw Node
  | .block name start stop opening closing children => do
    let span ← checkSpan source parent last start stop
    if start ≤ opening && opening < closing && closing < stop
        && source.asciiAt? opening = some '{' && source.asciiAt? closing = some '}' then
      let nodes ← convertAll source ⟨opening + 1, closing⟩ (opening + 1) children
      let header ← tokensIn source (nameEnd source start opening name) opening
      return .block name span header ⟨opening, closing⟩ nodes
    else .error (.badBraces name)
  | .statement name start stop => do
    let span ← checkSpan source parent last start stop
    return .statement name span (← tokensIn source (nameEnd source start stop name) stop)

/-- Converts nodes that follow one another. -/
def convertAll (source : Text) (parent : Span) (last : Nat) :
    List Outline → Except Flaw (List Node)
  | [] => .ok []
  | o :: os => do
    let node ← o.convert source parent last
    let nodes ← convertAll source parent node.span.stop os
    return node :: nodes

end

/-- The document that an outline of the whole source describes. -/
def toDocument (source : Text) (os : List Outline) : Except Flaw Document := do
  return ⟨source, ← convertAll source ⟨0, source.size⟩ 0 os⟩

/-! ## Reports -/

/-- What a helper prints: where the script is wrong, or its outline. -/
inductive Report where
  | error (offset : Nat) (message : Text)
  | tree (nodes : List Outline)

/-- The fields of a reported node without its kind. -/
inductive Kind where
  | block
  | statement

def kind? : Data → Option Kind
  | .string t =>
    if t = "block".toList then some .block
    else if t = "statement".toList then some .statement
    else none
  | .integer n => if n = 0 then some .block else if n = 1 then some .statement else none
  | _ => none

/-- Splits the kind from the other fields of a node. -/
def untag? : Data → Option (Kind × Data)
  | .object fields =>
    let isKind (f : Text × Data) : Bool := f.1 == "type".toList
    match fields.filter isKind with
    | [(_, k)] => (kind? k).map (·, .object (fields.filter (!isKind ·)))
    | _ => none
  | .array (k :: rest) => (kind? k).map (·, .array rest)
  | _ => none

def blockFields : List Text :=
  ["name", "start", "end", "open", "close", "children"].map String.toList

def statementFields : List Text := ["name", "start", "end"].map String.toList

/-- Reads a list of nodes, at most `depth` levels deep. -/
def ofData? : Nat → Data → Option (List Outline)
  | 0, _ => none
  | depth + 1, .array items => items.mapM fun item => do
    let (kind, fields) ← untag? item
    match kind with
    | .block =>
      match ← fields.record? true blockFields with
      | [some name, some start, some stop, some opening, some closing, children] =>
        return .block (← name.string?) (← start.word?) (← stop.word?) (← opening.word?)
          (← closing.word?) (← Data.orElse [] (ofData? depth) children)
      | _ => none
    | .statement =>
      match ← fields.record? true statementFields with
      | [some name, some start, some stop] =>
        return .statement (← name.string?) (← start.word?) (← stop.word?)
      | _ => none
  | _, _ => none

/-- Reads where a script is wrong. -/
def reportedError? (d : Data) : Option Report := do
  match ← d.record? true ["offset".toList, "message".toList] with
  | [offset, some message] =>
    return .error (← Data.orElse 0 Data.word? offset) (← message.string?)
  | _ => none

/-- The value of the only field of that name. -/
def only? (name : String) : Data → Option Data
  | .object fields =>
    match fields.filter (·.1 == name.toList) with
    | [(_, v)] => some v
    | _ => none
  | _ => none

/-- Reads what a helper printed. An error comes before a tree. -/
def report? (d : Data) : Option Report :=
  ((only? "error" d).bind reportedError?) <|>
    ((only? "children" d).bind fun c => (ofData? d.depth c).map .tree)

end Outline
end Graft
