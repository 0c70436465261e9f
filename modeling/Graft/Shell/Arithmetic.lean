import Graft.Shell.Bytes

/-!
# Arithmetic of the shell

Expressions over integers of 64 bits, which wrap around. A name stands for the number its variable
holds, or for zero. Operands that do not count are read but not evaluated.
-/
namespace Graft.Shell.Arithmetic

inductive Sign where
  | number (n : Int)
  | name (n : Bytes)
  | operator (t : String)
  | unknown
  deriving DecidableEq, Repr

/-- Why an expression has no value. -/
inductive Flaw where
  | divisionByZero
  | expecting (what : String)
  | badNumber (t : Bytes)
  | readOnly (name : Bytes)
  deriving DecidableEq, Repr

/-- How variables are looked up and set while an expression is evaluated. -/
structure Memory (σ : Type) where
  get : σ → Bytes → Bytes
  set : σ → Bytes → Bytes → Except Flaw σ

def wrap (n : Int) : Int := Int.bmod n (Nat.pow 2 64)

private def digitOf (c : Char) : Nat :=
  if c.isDigit then c.toNat - '0'.toNat
  else if 'a' ≤ c && c ≤ 'z' then c.toNat - 'a'.toNat + 10
  else if 'A' ≤ c && c ≤ 'Z' then c.toNat - 'A'.toNat + 10
  else 99

def isSpace (c : Char) : Bool := c == ' ' || ('\t' ≤ c && c ≤ '\r')

/-- The digits at the beginning of a text, and what follows them. -/
def digits (base : Nat) (t : Bytes) : Bytes × Bytes :=
  (t.takeWhile (digitOf · < base), t.dropWhile (digitOf · < base))

def ofDigits (base : Nat) (ds : Bytes) : Nat := ds.foldl (fun n c => base * n + digitOf c) 0

/-- The number at the beginning of a text, with `0x` in base 16, with `0` in base 8, and what
follows. -/
def natural? (anyBase : Bool) (t : Bytes) : Option (Nat × Bytes) :=
  let read (base : Nat) (t : Bytes) : Option (Nat × Bytes) :=
    match digits base t with
    | ([], _) => none
    | (ds, rest) => some (ofDigits base ds, rest)
  match anyBase, t with
  | true, '0' :: x :: r =>
    if (x == 'x' || x == 'X') && r.head?.any (digitOf · < 16) then read 16 r else read 8 t
  | _, t => read 10 t

/-- The number at the beginning of a text behind blanks and a sign, and what follows. -/
def leading? (anyBase : Bool) (t : Bytes) : Option (Int × Bytes) :=
  match t.dropWhile isSpace with
  | '-' :: r => (natural? anyBase r).map fun (n, rest) => (-(n : Int), rest)
  | '+' :: r => (natural? anyBase r).map fun (n, rest) => ((n : Int), rest)
  | r => (natural? anyBase r).map fun (n, rest) => ((n : Int), rest)

private def clamp (n : Int) : Int := max (-Int.pow 2 63) (min n (Int.pow 2 63 - 1))

/-- The decimal number in a text with blanks around it. -/
def integer? (t : Bytes) : Option Int :=
  match leading? false t with
  | some (n, rest) => if rest.all isSpace && clamp n = n then some n else none
  | none => none

private def operators : List String :=
  ["<<=", ">>=", "<<", ">>", "<=", ">=", "==", "!=", "&&", "||", "+=", "-=", "*=", "/=", "%=",
    "&=", "|=", "^=", "=", "<", ">", "+", "-", "*", "/", "%", "&", "|", "^", "!", "~", "?", ":",
    "(", ")"]

private def isNameStart (c : Char) : Bool := c.isAlpha || c == '_'

private def isNameChar (c : Char) : Bool := c.isAlphanum || c == '_'

/-- The signs of an expression, up to the first that is unknown. -/
def signs : Nat → Bytes → List Sign
  | 0, _ => []
  | _, [] => []
  | fuel + 1, c :: r =>
    if isSpace c then signs fuel r
    else if c.isDigit then
      match natural? true (c :: r) with
      | some (n, rest) => .number (clamp n) :: signs fuel rest
      | none => [.unknown]
    else if isNameStart c then
      let n := (c :: r).takeWhile isNameChar
      .name n :: signs fuel ((c :: r).drop n.length)
    else
      match operators.find? fun o => o.toList.isPrefixOf (c :: r) with
      | some o => .operator o :: signs fuel ((c :: r).drop o.length)
      | none => [.unknown]

private def ofBool (b : Bool) : Int := if b then 1 else 0

private def bitwise (f : Nat → Nat → Nat) (a b : Int) : Int :=
  wrap (f (a % Int.pow 2 64).toNat (b % Int.pow 2 64).toNat)

/-- A sign between two operands, applied. -/
def apply (o : String) (a b : Int) : Except Flaw Int :=
  match o with
  | "|" => .ok (bitwise Nat.lor a b)
  | "^" => .ok (bitwise Nat.xor a b)
  | "&" => .ok (bitwise Nat.land a b)
  | "==" => .ok (ofBool (a == b))
  | "!=" => .ok (ofBool (a != b))
  | "<" => .ok (ofBool (a < b))
  | ">" => .ok (ofBool (a > b))
  | "<=" => .ok (ofBool (a ≤ b))
  | ">=" => .ok (ofBool (a ≥ b))
  | "<<" => .ok (wrap (a * Int.pow 2 (b % 64).toNat))
  | ">>" => .ok (a.fdiv (Int.pow 2 (b % 64).toNat))
  | "+" => .ok (wrap (a + b))
  | "-" => .ok (wrap (a - b))
  | "*" => .ok (wrap (a * b))
  | "/" => if b = 0 then .error .divisionByZero else .ok (wrap (a.tdiv b))
  | _ => if b = 0 then .error .divisionByZero else .ok (a.tmod b)

/-- The operators by how tightly they bind, the loosest first. -/
def levels : List (List String) :=
  [["|"], ["^"], ["&"], ["==", "!="], ["<", ">", "<=", ">="], ["<<", ">>"], ["+", "-"],
    ["*", "/", "%"]]

/-- The number that the text of a variable stands for. -/
def valueOf (t : Bytes) : Except Flaw Int :=
  if t.all isSpace then .ok 0
  else
    match leading? true t with
    | some (n, rest) => if rest.all isSpace then .ok (clamp n) else .error (.badNumber t)
    | none => .error (.badNumber t)

/-- A value, the signs behind it and the variables afterwards. -/
abbrev Value (σ : Type) := Int × List Sign × σ

private def assigns : List String :=
  ["=", "+=", "-=", "*=", "/=", "%=", "&=", "|=", "^=", "<<=", ">>="]

section

variable {σ : Type} (memory : Memory σ)

mutual

/-- An assignment or a condition with its two values. Only a `live` part is evaluated. -/
def expression (fuel : Nat) (live : Bool) (vs : σ) (s : List Sign) : Except Flaw (Value σ) :=
  match fuel with
  | 0 => .error (.expecting "primary")
  | fuel + 1 =>
    match s with
    | .name n :: .operator o :: r =>
      if assigns.contains o then do
        let (v, r, vs) ← expression fuel live vs r
        if !live then return (v, r, vs)
        let v ← if o = "=" then pure v
          else apply ((o.dropEnd 1).toString) (← valueOf (memory.get vs n)) v
        return (v, r, ← memory.set vs n (toString v).toList)
      else condition fuel live vs s
    | s => condition fuel live vs s

def condition (fuel : Nat) (live : Bool) (vs : σ) (s : List Sign) : Except Flaw (Value σ) :=
  match fuel with
  | 0 => .error (.expecting "primary")
  | fuel + 1 => do
    match ← disjunction fuel live vs s with
    | (c, .operator "?" :: r, vs) =>
      let (a, r, vs) ← expression fuel (live && c != 0) vs r
      match r with
      | .operator ":" :: r =>
        let (b, r, vs) ← condition fuel (live && c == 0) vs r
        return (if c != 0 then a else b, r, vs)
      | _ => .error (.expecting "':'")
    | v => return v

def disjunction (fuel : Nat) (live : Bool) (vs : σ) (s : List Sign) : Except Flaw (Value σ) :=
  match fuel with
  | 0 => .error (.expecting "primary")
  | fuel + 1 => do
    match ← conjunction fuel live vs s with
    | (a, .operator "||" :: r, vs) =>
      let (b, r, vs) ← disjunction fuel (live && a == 0) vs r
      return (ofBool (a != 0 || b != 0), r, vs)
    | v => return v

def conjunction (fuel : Nat) (live : Bool) (vs : σ) (s : List Sign) : Except Flaw (Value σ) :=
  match fuel with
  | 0 => .error (.expecting "primary")
  | fuel + 1 => do
    match ← binary fuel levels live vs s with
    | (a, .operator "&&" :: r, vs) =>
      let (b, r, vs) ← conjunction fuel (live && a != 0) vs r
      return (ofBool (a != 0 && b != 0), r, vs)
    | v => return v

/-- Operands of one level with its operators between them. -/
def binary (fuel : Nat) (ls : List (List String)) (live : Bool) (vs : σ) (s : List Sign) :
    Except Flaw (Value σ) :=
  match fuel with
  | 0 => .error (.expecting "primary")
  | fuel + 1 =>
    match ls with
    | [] => unary fuel live vs s
    | l :: ls => do more fuel l ls live (← binary fuel ls live vs s)

/-- Goes on behind the first operand of a level. -/
def more (fuel : Nat) (l : List String) (ls : List (List String)) (live : Bool) (v : Value σ) :
    Except Flaw (Value σ) :=
  match fuel with
  | 0 => .error (.expecting "primary")
  | fuel + 1 =>
    match v with
    | (a, .operator o :: r, vs) =>
      if l.contains o then do
        let (b, r, vs) ← binary fuel ls live vs r
        more fuel l ls live (← if live then apply o a b else pure b, r, vs)
      else .ok v
    | v => .ok v

def unary (fuel : Nat) (live : Bool) (vs : σ) (s : List Sign) : Except Flaw (Value σ) :=
  match fuel with
  | 0 => .error (.expecting "primary")
  | fuel + 1 =>
    match s with
    | .number n :: r => .ok (n, r, vs)
    | .name n :: r => do
      return (← if live then valueOf (memory.get vs n) else pure 0, r, vs)
    | .operator "(" :: r => do
      match ← expression fuel live vs r with
      | (v, .operator ")" :: r, vs) => return (v, r, vs)
      | _ => .error (.expecting "')'")
    | .operator o :: r => do
      if o = "-" || o = "+" || o = "!" || o = "~" then
        let (v, r, vs) ← unary fuel live vs r
        let v := if o = "-" then wrap (-v) else if o = "!" then ofBool (v == 0)
          else if o = "~" then -v - 1 else v
        return (v, r, vs)
      else .error (.expecting "primary")
    | .unknown :: _ | [] => .error (.expecting "primary")

end

/-- The value of an expression. -/
def evaluate (vs : σ) (t : Bytes) : Except Flaw (Int × σ) := do
  let s := signs (t.length + 1) t
  match ← expression memory (64 * (s.length + 1)) true vs s with
  | (v, [], vs) => return (v, vs)
  | _ => .error (.expecting "EOF")

end

end Graft.Shell.Arithmetic
