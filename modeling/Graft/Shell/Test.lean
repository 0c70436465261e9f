import Graft.Shell.State

/-!
# Conditions

The conditions that `test` and its bracket understand: operators on texts, numbers and files, joined
by `-a`, `-o`, `!` and parentheses. With three or four arguments an operator in the middle, a
parenthesis or a negation at the beginning decides how the others are read.
-/
namespace Graft.Shell.Condition

/-- What an argument means where an operator can stand. -/
inductive Token where
  | unary (t : Bytes)
  | binary (t : Bytes)
  | negation
  | conjunction
  | disjunction
  | opening
  | closing
  | operand
  | stop
  deriving DecidableEq, Repr

/-- Why a condition has no answer. -/
inductive Flaw where
  | badNumber (t : Bytes)
  | unexpected (t : Bytes)
  | argumentExpected (t : Bytes)
  | unclosed
  deriving DecidableEq, Repr

def Flaw.message : Flaw → Bytes
  | badNumber t => "Illegal number: ".toList ++ t
  | unexpected t => (if t.isEmpty then t else t ++ ": ".toList) ++ "unexpected operator".toList
  | argumentExpected t => t ++ ": argument expected".toList
  | unclosed => "closing paren expected".toList

/-- The operator that an argument spells. -/
def operator? (t : Bytes) : Option Token :=
  match String.ofList t with
  | "-r" | "-w" | "-x" | "-e" | "-f" | "-d" | "-c" | "-b" | "-p" | "-u" | "-g" | "-k" | "-s" | "-t"
  | "-z" | "-n" | "-h" | "-O" | "-G" | "-L" | "-S" => some (.unary t)
  | "=" | "!=" | "<" | ">" | "-eq" | "-ne" | "-ge" | "-gt" | "-le" | "-lt" | "-nt" | "-ot" | "-ef" =>
    some (.binary t)
  | "!" => some .negation
  | "-a" => some .conjunction
  | "-o" => some .disjunction
  | "(" => some .opening
  | ")" => some .closing
  | _ => none

private def isBinary : Option Token → Bool
  | some (.binary _) => true
  | _ => false

/-- What the first of some arguments means. One that spells an operator of one operand is an operand
itself if nothing follows, or an operator of two operands. -/
def token : List Bytes → Token
  | [] => .stop
  | t :: rest =>
    match operator? t, rest with
    | some (.unary _), [] | some .opening, [] => .operand
    | some (.unary u), [_] => .unary u
    | some (.unary u), next :: _ => if isBinary (operator? next) then .operand else .unary u
    | some o, _ => o
    | none, _ => .operand

/-! ## Operators -/

private def located (s : State) (links : Bool) (p : Bytes) : Option (Location × Disk.Item) :=
  match s.disk.locate links s.here (Bytes.toText p) with
  | .ok l => (s.disk.get? l).map (l, ·)
  | .error _ => none

/-- A condition on one operand. -/
def unary (s : State) (operator operand : Bytes) : Except Flaw Bool :=
  let item := (located s true operand).map (·.2)
  let device := device? operand
  match String.ofList operator with
  | "-n" => .ok !operand.isEmpty
  | "-z" => .ok operand.isEmpty
  | "-t" =>
    match Arithmetic.integer? operand with
    | some _ => .ok false
    | none => .error (.badNumber operand)
  | "-e" | "-r" | "-w" | "-O" | "-G" => .ok (item.isSome || device.isSome)
  | "-f" => .ok (item matches some (.file ..))
  | "-d" => .ok (item == some .directory)
  | "-c" => .ok ([some .null, some .full, some .zeros].contains device)
  | "-x" => .ok (item matches some (.file _ true) || item == some .directory)
  | "-s" => .ok (match item with
    | some (.file content _) => !content.bytes.isEmpty
    | some .directory => true
    | _ => false)
  | "-h" | "-L" => .ok (located s false operand matches some (_, .link _))
  | _ => .ok false

/-- A condition on two operands. -/
def binary (s : State) (operator a b : Bytes) : Except Flaw Bool :=
  let compare (f : Int → Int → Bool) : Except Flaw Bool :=
    match Arithmetic.integer? a, Arithmetic.integer? b with
    | some m, some n => .ok (f m n)
    | none, _ => .error (.badNumber a)
    | _, none => .error (.badNumber b)
  let files (f : Location → Location → Bool) : Except Flaw Bool :=
    match located s true a, located s true b with
    | some (l, _), some (m, _) => .ok (f l m)
    | _, _ => .ok false
  match String.ofList operator with
  | "=" => .ok (a == b)
  | "!=" => .ok (a != b)
  | "<" => .ok (Location.compareText a b == .lt)
  | ">" => .ok (Location.compareText a b == .gt)
  | "-eq" => compare (· == ·)
  | "-ne" => compare (· != ·)
  | "-lt" => compare (· < ·)
  | "-le" => compare (· ≤ ·)
  | "-gt" => compare (· > ·)
  | "-ge" => compare (· ≥ ·)
  | "-nt" => files fun l m => s.changed m < s.changed l
  | "-ot" => files fun l m => s.changed l < s.changed m
  | _ => files s.isSame

/-! ## Expressions

Each function leaves the arguments from the last one that it read on. -/

mutual

def disjunction (s : State) (fuel : Nat) (t : Token) (args : List Bytes) :
    Except Flaw (Bool × List Bytes) :=
  match fuel with
  | 0 => .ok (false, args)
  | fuel + 1 => do
    let (a, args) ← conjunction s fuel t args
    if token args.tail == .disjunction then
      let (b, args) ← disjunction s fuel (token (args.drop 2)) (args.drop 2)
      return (a || b, args)
    else return (a, args)

def conjunction (s : State) (fuel : Nat) (t : Token) (args : List Bytes) :
    Except Flaw (Bool × List Bytes) :=
  match fuel with
  | 0 => .ok (false, args)
  | fuel + 1 => do
    let (a, args) ← negation s fuel t args
    if token args.tail == .conjunction then
      let (b, args) ← conjunction s fuel (token (args.drop 2)) (args.drop 2)
      return (a && b, args)
    else return (a, args)

def negation (s : State) (fuel : Nat) (t : Token) (args : List Bytes) :
    Except Flaw (Bool × List Bytes) :=
  match fuel with
  | 0 => .ok (false, args)
  | fuel + 1 =>
    if t == .negation then do
      let t := token args.tail
      let (a, args) ← negation s fuel t (if t == .stop then args else args.tail)
      return (!a, args)
    else primary s fuel t args

def primary (s : State) (fuel : Nat) (t : Token) (args : List Bytes) :
    Except Flaw (Bool × List Bytes) :=
  match fuel with
  | 0 => .ok (false, args)
  | fuel + 1 =>
    match t, args with
    | .stop, _ => .ok (false, args)
    | .opening, _ => do
      let t := token args.tail
      if t == .closing then return (false, args.tail)
      let (a, args) ← disjunction s fuel t args.tail
      if token args.tail != .closing then .error .unclosed
      return (a, args.tail)
    | .unary o, _ :: operand :: rest => do return (← unary s o operand, operand :: rest)
    | .unary o, _ => .error (.argumentExpected o)
    | _, a :: rest =>
      match token rest, rest with
      | .binary o, _ :: b :: more => do return (← binary s o a b, b :: more)
      | .binary o, _ => .error (.argumentExpected o)
      | _, _ => .ok (!a.isEmpty, args)
    | _, [] => .ok (false, args)

end

/-- The answer of a condition that begins with a token. Nothing may follow what was read last. -/
private def whole (s : State) (t : Token) (args : List Bytes) : Except Flaw Bool := do
  match ← disjunction s (4 * args.length + 8) t args with
  | (_, last :: _ :: _) => .error (.unexpected last)
  | (a, _) => return a

/-- Whether a condition holds. -/
def holds (s : State) : List Bytes → Except Flaw Bool
  | [] => .ok false
  | [a, o, b] =>
    if isBinary (operator? o) then whole s .operand [a, o, b]
    else if a == ['('] && b == [')'] then whole s (token [o]) [o]
    else if a == ['!'] then (holds s [o, b]).map (!·)
    else whole s (token [a, o, b]) [a, o, b]
  | [a, b, c, d] =>
    if a == ['('] && d == [')'] then whole s (token [b, c]) [b, c]
    else if a == ['!'] then (holds s [b, c, d]).map (!·)
    else whole s (token [a, b, c, d]) [a, b, c, d]
  | args => whole s (token args) args

end Graft.Shell.Condition
