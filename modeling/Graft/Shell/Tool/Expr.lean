import Graft.Shell.Regex.Search
import Graft.Shell.Tool.Basic

/-!
# Expressions as arguments

`expr` evaluates an expression whose parts are its arguments.
-/
namespace Graft.Shell.Tool.Expr

/-- Why an expression has no value. -/
inductive Flaw where
  | unexpected (t : Bytes)
  | closing
  | missing (behind : Bytes)
  | unclosed (behind : Bytes)
  | wrongClose (found : Bytes)
  | noInteger
  | divisionByZero
  | regex (f : Regex.Flaw)

def Flaw.message : Flaw → String
  | unexpected t => "syntax error: unexpected argument " ++ quote t
  | closing => "syntax error: unexpected ')'"
  | missing t => "syntax error: missing argument after " ++ quote t
  | unclosed t => "syntax error: expecting ')' after " ++ quote t
  | wrongClose t => "syntax error: expecting ')' instead of " ++ quote t
  | noInteger => "non-integer argument"
  | divisionByZero => "division by zero"
  | regex f => f.message

/-- The integer that a text is. -/
def integer? (t : Bytes) : Option Int :=
  match t with
  | '-' :: r => if isDigits r then some (-(ofDigits r : Int)) else none
  | r => if isDigits r then some (ofDigits r) else none

def isNull (t : Bytes) : Bool :=
  t.isEmpty || integer? t == some 0

private def ofInt (n : Int) : Bytes := (toString n).toList

private def ofBool (b : Bool) : Bytes := if b then ['1'] else ['0']

/-- What an expression matches at the beginning of a text: its first group, or how long it is. -/
private def beginning (t pattern : Bytes) : Except Flaw Bytes :=
  match Regex.parse { Regex.basic with lenient := true } pattern with
  | .error f => .error (.regex f)
  | .ok r =>
    let p := Regex.Program.ofRegex (.seq (.anchor .textStart) r)
    match p.search t.toArray 0 false, p.groups with
    | none, 0 => .ok ['0']
    | none, _ => .ok []
    | some m, 0 => .ok (((m.getD 0 none).map fun (a, z) => ofInt (z - a)).getD ['0'])
    | some m, _ => .ok (((m.getD 1 none).map fun (a, z) => (t.drop a).take (z - a)).getD [])

private def arithmetic (o : String) (a b : Bytes) : Except Flaw Bytes :=
  match integer? a, integer? b with
  | some m, some n =>
    match o with
    | "+" => .ok (ofInt (m + n))
    | "-" => .ok (ofInt (m - n))
    | "*" => .ok (ofInt (m * n))
    | "/" => if n == 0 then .error .divisionByZero else .ok (ofInt (m.tdiv n))
    | _ => if n == 0 then .error .divisionByZero else .ok (ofInt (m.tmod n))
  | _, _ => .error .noInteger

private def comparison (o : String) (a b : Bytes) : Bytes :=
  let order := match integer? a, integer? b with
    | some m, some n => compare m n
    | _, _ => Location.compareText a b
  ofBool (match o with
    | "<" => order == .lt
    | "<=" => order != .gt
    | "=" | "==" => order == .eq
    | "!=" => order != .eq
    | ">=" => order != .lt
    | _ => order == .gt)

/-- The operators by how tightly they bind, the loosest first. -/
private def levels : List (List String) :=
  [["|"], ["&"], ["<", "<=", "=", "==", "!=", ">=", ">"], ["+", "-"], ["*", "/", "%"], [":"]]

/-- Applies an operator; what is not `live` is only read. -/
private def apply (o : String) (live : Bool) (a b : Bytes) : Except Flaw Bytes :=
  if !live then .ok a
  else
    match o with
    | "|" => .ok (if !isNull a then a else if isNull b then ['0'] else b)
    | "&" => .ok (if isNull a || isNull b then ['0'] else a)
    | ":" => beginning a b
    | o => if ["+", "-", "*", "/", "%"].contains o then arithmetic o a b else .ok (comparison o a b)

mutual

/-- A chain of operators of one level. The last argument that was read is given for complaints. -/
private def level (fuel : Nat) (ls : List (List String)) (live : Bool) (last : Bytes)
    (args : List Bytes) : Except Flaw (Bytes × Bytes × List Bytes) :=
  match fuel with
  | 0 => .error (.missing last)
  | fuel + 1 =>
    match ls with
    | [] => operand fuel live last args
    | l :: ls => do
      let (v, last, rest) ← level fuel ls live last args
      more fuel l ls live v last rest

private def more (fuel : Nat) (l : List String) (ls : List (List String)) (live : Bool) (v : Bytes)
    (last : Bytes) (args : List Bytes) : Except Flaw (Bytes × Bytes × List Bytes) :=
  match fuel with
  | 0 => .error (.missing last)
  | fuel + 1 =>
    match args with
    | o :: rest =>
      if l.contains (String.ofList o) then do
        let o' := String.ofList o
        let isLive := live && !(o' == "|" && !isNull v) && !(o' == "&" && isNull v)
        let (w, last, rest) ← level fuel ls isLive o rest
        let v ← apply o' live v w
        more fuel l ls live v last rest
      else .ok (v, last, args)
    | [] => .ok (v, last, [])

/-- A value, a call or an expression in parentheses. -/
private def operand (fuel : Nat) (live : Bool) (last : Bytes) (args : List Bytes) :
    Except Flaw (Bytes × Bytes × List Bytes) :=
  match fuel with
  | 0 => .error (.missing last)
  | fuel + 1 =>
    match args with
    | [] => .error (.missing last)
    | a :: rest =>
      match String.ofList a with
      | "(" => do
        let (v, last, rest) ← level fuel levels live a rest
        match rest with
        | [')'] :: rest => return (v, [')'], rest)
        | found :: _ => .error (.wrongClose found)
        | [] => .error (.unclosed last)
      | ")" => .error .closing
      | "+" =>
        match rest with
        | v :: rest => .ok (v, v, rest)
        | [] => .error (.missing a)
      | "length" => do
        let (v, last, rest) ← operand fuel live a rest
        return (ofInt v.length, last, rest)
      | "match" => do
        let (v, last, rest) ← operand fuel live a rest
        let (p, last, rest) ← operand fuel live last rest
        return (← if live then beginning v p else .ok v, last, rest)
      | "index" => do
        let (v, last, rest) ← operand fuel live a rest
        let (cs, last, rest) ← operand fuel live last rest
        return (ofInt ((v.findIdx? fun c => cs.contains c).elim 0 (· + 1)), last, rest)
      | "substr" => do
        let (v, last, rest) ← operand fuel live a rest
        let (i, last, rest) ← operand fuel live last rest
        let (n, last, rest) ← operand fuel live last rest
        let part := match integer? i, integer? n with
          | some i, some n => if i ≤ 0 || n ≤ 0 then [] else (v.drop (i.toNat - 1)).take n.toNat
          | _, _ => []
        return (part, last, rest)
      | _ => .ok (a, a, rest)

end

/-- The value of an expression. -/
def evaluate (args : List Bytes) : Except Flaw Bytes := do
  let (v, _, rest) ← level (16 * args.length + 16) levels true [] args
  match rest with
  | [] => return v
  | extra :: _ => .error (.unexpected extra)

end Graft.Shell.Tool.Expr

namespace Graft.Shell.Tool

def expr (s : State) (args : List Bytes) : State :=
  match (if args.head? == some ['-', '-'] then args.drop 1 else args) with
  | [] => missing s 2
  | args =>
    match Expr.evaluate args with
    | .ok v => (s.print (v ++ ['\n'])).finish (if Expr.isNull v then 1 else 0)
    | .error f => s.grumble 2 f.message

end Graft.Shell.Tool
