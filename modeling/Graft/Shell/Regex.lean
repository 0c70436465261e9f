import Graft.Shell.Glob

/-!
# Regular expressions

The syntax of regular expressions over bytes, in the basic and in the extended dialect, as trees.
-/
namespace Graft.Shell

/-- Which bytes a place of an expression takes. -/
abbrev ByteSet := Array Bool

namespace ByteSet

def ofPredicate (p : Char → Bool) : ByteSet :=
  ((List.range 256).map fun n => p (Char.ofNat n)).toArray

def has (s : ByteSet) (c : Char) : Bool := s.getD c.toNat false

/-- The set with both cases of each letter. -/
def folded (s : ByteSet) : ByteSet :=
  ofPredicate fun c => s.has c || s.has c.toLower || s.has c.toUpper

end ByteSet

/-- Conditions on a place between two bytes. -/
inductive Anchor where
  | lineStart
  | lineEnd
  | textStart
  | textEnd
  | wordStart
  | wordEnd
  | edge
  | noEdge
  /-- No letter of a word stands before. -/
  | notBehindWord
  /-- No letter of a word follows. -/
  | notBeforeWord
  deriving DecidableEq, Repr

/-- A regular expression. -/
inductive Regex where
  | empty
  | byte (s : ByteSet)
  | anchor (a : Anchor)
  | group (n : Nat) (r : Regex)
  | back (n : Nat)
  | seq (a b : Regex)
  | alt (a b : Regex)
  | many (r : Regex) (least : Nat) (most : Option Nat)

namespace Regex

/-- How expressions are written. -/
structure Dialect where
  /-- Operators stand without backslashes. -/
  extended : Bool
  /-- Letters match in both cases. -/
  folded : Bool
  /-- What is no complete operator stands for itself. -/
  lenient : Bool
  /-- Backslashes stand before letters for special bytes, also between brackets. -/
  escapes : Bool

def basic : Dialect := ⟨false, false, false, false⟩

def extended : Dialect := ⟨true, false, false, false⟩

/-- What is wrong with an expression. -/
inductive Flaw where
  | openBracket
  | emptyBracket
  | openGroup
  | closedGroup
  | openInterval
  | badInterval
  | nothingRepeated
  | badRange
  | badClass
  | badReference
  | trailingBackslash
  | tooBig
  deriving DecidableEq, Repr

def Flaw.message : Flaw → String
  | openBracket => "Unmatched [, [^, [:, [., or [="
  | emptyBracket => "Invalid regular expression"
  | openGroup => "Unmatched ( or \\("
  | closedGroup => "Unmatched ) or \\)"
  | openInterval => "Unmatched \\\x7b"
  | badInterval => "Invalid content of \\\x7b\\\x7d"
  | nothingRepeated => "Invalid preceding regular expression"
  | badRange => "Invalid range end"
  | badClass => "Invalid character class name"
  | badReference => "Invalid back reference"
  | trailingBackslash => "Trailing backslash"
  | tooBig => "Regular expression too big"

/-- How often an expression may be repeated by an interval. -/
def maxRepeat : Nat := 32767

/-! ## Bytes -/

def isWord (c : Char) : Bool := c.isAlphanum || c == '_'

private def isSpaceByte (c : Char) : Bool := c == ' ' || ('\t' ≤ c && c ≤ '\r')

private def single (d : Dialect) (c : Char) : Regex :=
  let s := ByteSet.ofPredicate (· == c)
  .byte (if d.folded then s.folded else s)

/-- The byte that a letter behind a backslash stands for. -/
private def escaped? : Char → Option Char
  | 'n' => some '\n'
  | 't' => some '\t'
  | 'r' => some '\r'
  | 'f' => some '\x0c'
  | 'v' => some '\x0b'
  | 'a' => some '\x07'
  | 'b' => some '\x08'
  | _ => none

/-- The byte at the beginning of a text in which backslashes are escapes, and the rest. -/
private def escapedByte : Bytes → Option (Char × Bytes)
  | '\\' :: c :: r =>
    match escaped? c with
    | some e => some (e, r)
    | none =>
      let ds := ((c :: r).takeWhile fun x => '0' ≤ x && x ≤ '7').take 3
      if ds.isEmpty then some (c, r)
      else
        let n := ds.foldl (fun n x => 8 * n + (x.toNat - '0'.toNat)) 0
        some (Char.ofNat (n % 256), (c :: r).drop ds.length)
  | c :: r => some (c, r)
  | [] => none

/-! ## Sets between brackets -/

/-- The name between `[:` and `:]`, or between other marks. -/
private def named (mark : Char) : Nat → Bytes → Bytes → Option (Bytes × Bytes)
  | 0, _, _ => none
  | fuel + 1, done, c :: ']' :: r =>
    if c == mark then some (done.reverse, r) else named mark fuel (c :: done) (']' :: r)
  | fuel + 1, done, c :: r => named mark fuel (c :: done) r
  | _, _, [] => none

/-- One end of a range. -/
private def rangeEnd (d : Dialect) : Bytes → Except Flaw (Option (Char × Bytes))
  | '[' :: '.' :: r =>
    match named '.' r.length [] r with
    | some ([c], r) => .ok (some (c, r))
    | _ => .error .openBracket
  | '[' :: '=' :: r =>
    match named '=' r.length [] r with
    | some ([c], r) => .ok (some (c, r))
    | _ => .error .openBracket
  | t => .ok (if d.escapes then escapedByte t else t.head?.map (·, t.tail))

/-- The members of a set up to the bracket that closes it. -/
private def members (d : Dialect) :
    Nat → Bool → List (Char → Bool) → Bytes → Except Flaw (List (Char → Bool) × Bytes)
  | 0, _, _, _ => .error .openBracket
  | _, _, _, [] => .error .openBracket
  | fuel + 1, first, done, c :: r =>
    if c == ']' && !first then .ok (done, r)
    else
      match c, r with
      | '[', ':' :: r =>
        match named ':' r.length [] r with
        | none => .error .openBracket
        | some (name, r) =>
          let name := if d.folded && (name == "upper".toList || name == "lower".toList) then
              "alpha" else String.ofList name
          match charClass? name with
          | some p => members d fuel false (p :: done) r
          | none => .error .badClass
      | _, _ => do
        match ← rangeEnd d (c :: r) with
        | none => .error .openBracket
        | some (a, r) =>
          match r with
          | '-' :: e :: r' =>
            if e == ']' then members d fuel false ((· == a) :: done) r
            else
              match ← rangeEnd d (e :: r') with
              | none => .error .openBracket
              | some (b, r) =>
                if b < a then .error .badRange
                else members d fuel false ((fun x => a ≤ x && x ≤ b) :: done) r
          | r => members d fuel false ((· == a) :: done) r

/-- The set behind an opening bracket. -/
private def bracket (d : Dialect) (t : Bytes) : Except Flaw (Regex × Bytes) := do
  let (negated, r) := match t with
    | '^' :: r => (true, r)
    | r => (false, r)
  if r.isEmpty then .error .emptyBracket
  let (ps, rest) ← members d (r.length + 1) true [] r
  let s := ByteSet.ofPredicate fun c => ps.any fun p => p c
  let s := if d.folded then s.folded else s
  return (.byte (if negated then ByteSet.ofPredicate fun c => !s.has c else s), rest)

/-! ## Intervals -/

/-- The bounds behind an opening brace. What closes an interval depends on the dialect. -/
private def interval (d : Dialect) (t : Bytes) : Except Flaw (Nat × Option Nat × Bytes) :=
  let natural (ds : Bytes) : Nat := ds.foldl (fun n c => 10 * n + (c.toNat - '0'.toNat)) 0
  let low := t.takeWhile Char.isDigit
  let r := t.drop low.length
  let (high, r) : Option Bytes × Bytes := match r with
    | ',' :: r => (some (r.takeWhile Char.isDigit), r.dropWhile Char.isDigit)
    | r => (none, r)
  let closed : Option Bytes := match d.extended, r with
    | true, '\x7d' :: r => some r
    | false, '\\' :: '\x7d' :: r => some r
    | _, _ => none
  match closed with
  | none => .error (if r.isEmpty then .openInterval else .badInterval)
  | some rest =>
    if low.isEmpty && high.isNone then .error .badInterval
    else
      let least := natural low
      let most : Option Nat := match high with
        | none => some least
        | some [] => none
        | some ds => some (natural ds)
      if most.any (· < least) then .error .badInterval
      else if maxRepeat < max least (most.getD 0) then .error .tooBig
      else .ok (least, most, rest)

/-! ## Expressions -/

/-- What a repetition operator at the beginning of a text asks for. -/
private inductive Repetition where
  | none
  | times (least : Nat) (most : Option Nat) (rest : Bytes)

private def repetition (d : Dialect) (t : Bytes) : Except Flaw Repetition :=
  let braces (r : Bytes) : Except Flaw Repetition :=
    match interval d r with
    | .ok (least, most, rest) => .ok (.times least most rest)
    | .error f =>
      let isCount (c : Char) : Bool := c.isDigit || c == ','
      let isText := f == .openInterval || !r.contains '\x7d' ||
        !(r.takeWhile (· != '\x7d')).all isCount
      if d.lenient && d.extended && isText then .ok .none else .error f
  match d.extended, t with
  | _, '*' :: r => .ok (.times 0 none r)
  | true, '+' :: r => .ok (.times 1 none r)
  | true, '?' :: r => .ok (.times 0 (some 1) r)
  | true, '\x7b' :: r => braces r
  | false, '\\' :: '+' :: r => .ok (.times 1 none r)
  | false, '\\' :: '?' :: r => .ok (.times 0 (some 1) r)
  | false, '\\' :: '\x7b' :: r => braces r
  | _, _ => .ok .none

/-- Whether an alternative ends here. -/
private def endsBranch (d : Dialect) (depth : Nat) : Bytes → Bool
  | [] => true
  | '|' :: _ => d.extended
  | ')' :: _ => d.extended && (0 < depth || !d.lenient)
  | '\\' :: '|' :: _ => !d.extended
  | '\\' :: ')' :: _ => !d.extended
  | _ => false

/-- The expression that a backslash and a letter stand for, apart from groups. -/
private def backslash (d : Dialect) (closed : List Nat) (c : Char) : Except Flaw Regex :=
  let bytes (p : Char → Bool) : Except Flaw Regex := .ok (.byte (ByteSet.ofPredicate p))
  match c with
  | 'w' => bytes isWord
  | 'W' => bytes (!isWord ·)
  | 's' => bytes isSpaceByte
  | 'S' => bytes (!isSpaceByte ·)
  | 'b' => .ok (.anchor .edge)
  | 'B' => .ok (.anchor .noEdge)
  | '<' => .ok (.anchor .wordStart)
  | '>' => .ok (.anchor .wordEnd)
  | '\x60' => .ok (.anchor .textStart)
  | '\'' => .ok (.anchor .textEnd)
  | c =>
    if '1' ≤ c && c ≤ '9' then
      let n := c.toNat - '0'.toNat
      if closed.contains n then .ok (.back n) else .error .badReference
    else .ok (single d c)

/-- How far a parse has come: the rest, the number of groups begun, and the groups that are
closed. -/
private structure Progress where
  rest : Bytes
  groups : Nat
  closed : List Nat

mutual

/-- Alternatives up to the end or to a closing parenthesis. -/
private def alternatives (d : Dialect) (fuel : Nat) (depth : Nat) (p : Progress) :
    Except Flaw (Regex × Progress) :=
  match fuel with
  | 0 => .error .tooBig
  | fuel + 1 => do
    let (r, p) ← branch d fuel depth true .empty p
    match d.extended, p.rest with
    | true, '|' :: rest =>
      let (s, p) ← alternatives d fuel depth { p with rest }
      return (.alt r s, p)
    | false, '\\' :: '|' :: rest =>
      let (s, p) ← alternatives d fuel depth { p with rest }
      return (.alt r s, p)
    | _, _ => return (r, p)

/-- Pieces one after another. -/
private def branch (d : Dialect) (fuel : Nat) (depth : Nat) (first : Bool) (done : Regex)
    (p : Progress) : Except Flaw (Regex × Progress) :=
  match fuel with
  | 0 => .error .tooBig
  | fuel + 1 => do
    if endsBranch d depth p.rest then return (done, p)
    let (atom, p, isAnchor) ← atom d fuel depth first p
    let (r, p) ← repeated d fuel (isAnchor && !d.extended) atom p
    let joined := match done with
      | .empty => r
      | done => .seq done r
    branch d fuel depth (first && isAnchor && !d.extended) joined p

/-- Applies repetition operators. -/
private def repeated (d : Dialect) (fuel : Nat) (isAnchor : Bool) (r : Regex) (p : Progress) :
    Except Flaw (Regex × Progress) :=
  match fuel with
  | 0 => .error .tooBig
  | fuel + 1 => do
    if isAnchor then return (r, p)
    match ← repetition d p.rest with
    | .none => return (r, p)
    | .times least most rest =>
      if !d.extended && !d.lenient && (r matches .many ..) && p.rest.head? == some '*' then
        .error .nothingRepeated
      repeated d fuel false (.many r least most) { p with rest }

/-- A single byte, a set, an anchor or a group; the flag says whether it is an anchor. -/
private def atom (d : Dialect) (fuel : Nat) (depth : Nat) (first : Bool) (p : Progress) :
    Except Flaw (Regex × Progress × Bool) :=
  match fuel with
  | 0 => .error .tooBig
  | fuel + 1 =>
    let group (rest : Bytes) : Except Flaw (Regex × Progress × Bool) := do
      let n := p.groups + 1
      let (r, q) ← alternatives d fuel (depth + 1) { p with rest, groups := n }
      let rest ← match d.extended, q.rest with
        | true, ')' :: rest => pure rest
        | false, '\\' :: ')' :: rest => pure rest
        | _, _ => .error .openGroup
      return (.group n r, { q with rest, closed := n :: q.closed }, false)
    let plain (c : Char) (rest : Bytes) : Except Flaw (Regex × Progress × Bool) :=
      .ok (single d c, { p with rest }, false)
    let anchor (a : Anchor) (rest : Bytes) : Except Flaw (Regex × Progress × Bool) :=
      .ok (.anchor a, { p with rest }, true)
    match p.rest with
    | [] => .ok (.empty, p, false)
    | ['\\'] => .error .trailingBackslash
    | '[' :: rest => do
      let (r, rest) ← bracket d rest
      return (r, { p with rest }, false)
    | '.' :: rest => .ok (.byte (ByteSet.ofPredicate fun _ => true), { p with rest }, false)
    | '^' :: rest =>
      if d.extended || first then anchor .lineStart rest else plain '^' rest
    | '$' :: rest =>
      if d.extended || endsBranch d depth rest then anchor .lineEnd rest else plain '$' rest
    | '\\' :: c :: rest =>
      if d.escapes then
        match escapedByte p.rest with
        | some (e, rest) => plain e rest
        | none => plain c rest
      else if !d.extended && c == '(' then group rest
      else if !d.extended && c == ')' then .error .closedGroup
      else if !d.extended && c == '\x7b' then
        if d.lenient then leading rest else .error .nothingRepeated
      else do
        let r ← backslash d p.closed c
        return (r, { p with rest }, false)
    | c :: rest =>
      if !d.extended then plain c rest
      else
        match c with
        | '(' => group rest
        | ')' => if d.lenient then plain c rest else .error .closedGroup
        | '*' | '+' | '?' =>
          if d.lenient && !d.escapes then leading rest else .error .nothingRepeated
        | '\x7b' =>
          if d.lenient then
            match interval d rest with
            | .ok (_, _, rest) => leading rest
            | .error _ => plain c rest
          else .error .nothingRepeated
        | c => plain c rest
where
  /-- An operator that has nothing to repeat is passed over. -/
  leading (rest : Bytes) : Except Flaw (Regex × Progress × Bool) :=
    .ok (.empty, { p with rest }, false)

end

/-- Reads an expression. -/
def parse (d : Dialect) (t : Bytes) : Except Flaw Regex := do
  let (r, p) ← alternatives d (4 * t.length + 4) 0 ⟨t, 0, []⟩
  if p.rest.isEmpty then return r else .error .closedGroup

/-- The expression for a text itself. -/
def literal (d : Dialect) (t : Bytes) : Regex :=
  t.foldr (fun c r => .seq (single d c) r) .empty

/-- The operators that stand where there is nothing to repeat. -/
def leadingOperators (t : Bytes) : List String :=
  let rec go : Nat → Bool → Bytes → List String
    | 0, _, _ => []
    | _, _, [] => []
    | fuel + 1, _, '\\' :: _ :: r => go fuel false r
    | fuel + 1, first, c :: r =>
      if c == '[' then
        match bracket extended r with
        | .ok (_, r) => go fuel false r
        | .error _ => []
      else if c == '(' || c == '|' then go fuel true r
      else if c == '^' then go fuel true r
      else if first && (c == '*' || c == '+' || c == '?') then c.toString :: go fuel true r
      else if first && c == '\x7b' then
        match interval extended r with
        | .ok (_, _, r) => "\x7b...\x7d" :: go fuel true r
        | .error _ => go fuel false r
      else go fuel false r
  go (t.length + 1) true t

/-- How many groups an expression has. -/
def groups : Regex → Nat
  | group n r => max n r.groups
  | seq a b | alt a b => max a.groups b.groups
  | many r _ _ => r.groups
  | _ => 0

/-- Whether an expression refers back to a group. -/
def hasBack : Regex → Bool
  | back _ => true
  | group _ r => r.hasBack
  | seq a b | alt a b => a.hasBack || b.hasBack
  | many r _ _ => r.hasBack
  | _ => false

end Regex
end Graft.Shell
