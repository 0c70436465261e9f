import Graft.Tree.Build

/-!
# The grammar of scripts

A derivation of a body lists its separators, statements and blocks in order, each with the tokens it
is made of. `Body.tokens` is the sequence that is derived, `Body.Valid` holds the rules, and
`Body.nodes` is the tree. A rule that looks ahead is stated about all the tokens that follow.
-/
namespace Graft.Grammar

/-! ## Tokens -/

/-- Ends of lines and semicolons stand between items. -/
def IsSeparator (t : Token) : Prop := t.kind = .newline ∨ t.isSymbol ';'

/-- The six marks that open or close a group. -/
def IsBracket (t : Token) : Prop := ∃ c ∈ ['(', ')', '[', ']', '{', '}'], t.isSymbol c

/-- A group in round or square brackets. -/
def IsEnclosed (opening closing : Token) : Prop :=
  (opening.isSymbol '(' ∧ closing.isSymbol ')') ∨ (opening.isSymbol '[' ∧ closing.isSymbol ']')

/-- A group in braces. -/
def IsBraced (opening closing : Token) : Prop := opening.isSymbol '{' ∧ closing.isSymbol '}'

/-- A statement ends where a separator or a closing brace follows, or nothing. -/
def Ended (ts : List Token) : Prop := ∀ t ∈ ts.head?, IsSeparator t ∨ t.isSymbol '}'

/-! ## Derivations -/

/-- Identifiers with the points that join them. -/
structure Name where
  first : Token
  rest : List (Token × Token)

/-- Tokens and groups in brackets, in order. -/
inductive Pieces where
  | nil
  | token (t : Token) (rest : Pieces)
  | group (opening : Token) (inside : Pieces) (closing : Token) (rest : Pieces)

/-- Separators, statements and blocks, in order. -/
inductive Body where
  | nil
  | separator (t : Token) (rest : Body)
  | statement (name : Name) (arguments : Pieces) (rest : Body)
  | block (name : Name) (header : Pieces) (breaks : List Token) (opening : Token) (inside : Body)
      (closing : Token) (rest : Body)

namespace Name

def tokens (n : Name) : List Token := n.first :: n.rest.flatMap fun p => [p.1, p.2]

def text (n : Name) : Text := n.first.text ++ n.rest.flatMap fun p => '.' :: p.2.text

/-- The offset right after the last of the identifiers that follow one that ends at `stop`. -/
def stopFrom : Nat → List (Token × Token) → Nat
  | stop, [] => stop
  | _, p :: ps => stopFrom p.2.stop ps

def stop (n : Name) : Nat := stopFrom n.first.stop n.rest

/-- Points and identifiers that go on, without gaps, a chain that ends at `stop`. -/
def Linked : Nat → List (Token × Token) → Prop
  | _, [] => True
  | stop, (p, i) :: ps =>
    (p.isSymbol '.' ∧ stop = p.start) ∧ (i.kind = .identifier ∧ p.touches i) ∧ Linked i.stop ps

/-- A point and an identifier follow without a gap what ends at `stop`. -/
def Extends (stop : Nat) (ts : List Token) : Prop :=
  ∃ p i rest, ts = p :: i :: rest ∧ (p.isSymbol '.' ∧ stop = p.start) ∧
    (i.kind = .identifier ∧ p.touches i)

/-- A chain of identifiers without gaps, the longest one before the tokens `following`. -/
structure Valid (n : Name) (following : List Token) : Prop where
  identifier : n.first.kind = .identifier
  linked : Linked n.first.stop n.rest
  maximal : ¬ Extends n.stop following

end Name

namespace Pieces

def tokens : Pieces → List Token
  | nil => []
  | token t rest => t :: rest.tokens
  | group o inside c rest => o :: inside.tokens ++ c :: rest.tokens

/-- The tokens without the ends of lines. -/
def kept (p : Pieces) : List Token := p.tokens.filter fun t => t.kind ≠ .newline

/-- The contents of a group: any tokens in which brackets pair up. -/
inductive Nested : Pieces → Prop where
  | nil : Nested .nil
  | token {t rest} : ¬ IsBracket t → Nested rest → Nested (.token t rest)
  | group {o inside c rest} : IsEnclosed o c ∨ IsBraced o c → Nested inside → Nested rest →
      Nested (.group o inside c rest)

/-- Arguments: tokens other than separators and brackets, and groups not in braces. -/
inductive Arguments : Pieces → Prop where
  | nil : Arguments .nil
  | token {t rest} : ¬ IsSeparator t → ¬ IsBracket t → Arguments rest → Arguments (.token t rest)
  | group {o inside c rest} : IsEnclosed o c → Nested inside → Arguments rest →
      Arguments (.group o inside c rest)

end Pieces

namespace Body

def tokens : Body → List Token
  | nil => []
  | separator t rest => t :: rest.tokens
  | statement n args rest => n.tokens ++ args.tokens ++ rest.tokens
  | block n header breaks o inside c rest =>
    n.tokens ++ header.tokens ++ breaks ++ o :: inside.tokens ++ c :: rest.tokens

/-- The rules of a body that stands before the tokens `after`. A block has its opening brace on the
line of its name and header, or, without a header, on a later line. -/
inductive Valid : List Token → Body → Prop where
  | nil {after} : Valid after .nil
  | separator {after t rest} : IsSeparator t → Valid after rest → Valid after (.separator t rest)
  | statement {after n args rest} : n.Valid (args.tokens ++ (rest.tokens ++ after)) → args ≠ .nil →
      args.Arguments → Ended (rest.tokens ++ after) → Valid after rest →
      Valid after (.statement n args rest)
  | block {after n header breaks o inside c rest} :
      n.Valid (header.tokens ++ (breaks ++ o :: (inside.tokens ++ c :: (rest.tokens ++ after)))) →
      header.Arguments → (∀ t ∈ breaks, t.kind = .newline) → header = .nil ∨ breaks = [] →
      IsBraced o c → Valid (c :: (rest.tokens ++ after)) inside → Valid after rest →
      Valid after (.block n header breaks o inside c rest)

/-- A derivation of all the tokens of a script. -/
def Derives (b : Body) (ts : List Token) : Prop := b.tokens = ts ∧ b.Valid []

/-- The nodes of a body. -/
def nodes : Body → List Node
  | nil => []
  | separator _ rest => rest.nodes
  | statement n args rest =>
    .statement n.text ⟨n.first.start, (args.tokens.getLast?.map Token.stop).getD n.stop⟩ args.kept ::
      rest.nodes
  | block n header _ o inside c rest =>
    .block n.text ⟨n.first.start, c.stop⟩ header.kept ⟨o.start, c.start⟩ inside.nodes :: rest.nodes

end Body
end Graft.Grammar
