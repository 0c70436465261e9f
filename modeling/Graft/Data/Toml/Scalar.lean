import Graft.Data
import Graft.Data.Double

/-!
# Plain scalars of TOML

Truth values, numbers and dates. Underscores may stand between digits; an integer has 64 bits, a
date has to exist.
-/
namespace Graft.Toml

/-- A run of digits with single underscores between them, the underscores left out. -/
def digitRun (isDigit : Char → Bool) : Text → Option Text
  | [] => none
  | [c] => if isDigit c then some [c] else none
  | c :: '_' :: r => if isDigit c then (digitRun isDigit r).map (c :: ·) else none
  | c :: r => if isDigit c then (digitRun isDigit r).map (c :: ·) else none

private def digitValue (c : Char) : Nat :=
  if c.isDigit then c.toNat - '0'.toNat
  else if 'a' ≤ c && c ≤ 'f' then c.toNat - 'a'.toNat + 10
  else c.toNat - 'A'.toNat + 10

/-- The number that digits write. -/
def ofDigits (base : Nat) (ds : Text) : Nat := ds.foldl (fun n d => base * n + digitValue d) 0

private def isHex (c : Char) : Bool :=
  c.isDigit || ('a' ≤ c && c ≤ 'f') || ('A' ≤ c && c ≤ 'F')

private def isOctal (c : Char) : Bool := '0' ≤ c && c ≤ '7'

private def isBinary (c : Char) : Bool := c == '0' || c == '1'

/-- The sign of a number, if it is a minus, and what follows the sign. -/
def unsigned : Text → Bool × Text
  | '-' :: r => (true, r)
  | '+' :: r => (false, r)
  | t => (false, t)

private def fits64 (n : Int) : Bool := -(Int.pow 2 63) ≤ n && n < Int.pow 2 63

private def based (base : Nat) (isDigit : Char → Bool) (t : Text) : Option Data := do
  let n : Int := ofDigits base (← digitRun isDigit t)
  if fits64 n then some (.integer n) else none

/-- The digits of a decimal number, which begins with zero only if it is zero. -/
def decimalDigits (t : Text) : Option Text := do
  let ds ← digitRun Char.isDigit t
  match ds with
  | '0' :: _ :: _ => none
  | _ => some ds

def integer? (t : Text) : Option Data :=
  match t with
  | '0' :: 'x' :: r => based 16 isHex r
  | '0' :: 'o' :: r => based 8 isOctal r
  | '0' :: 'b' :: r => based 2 isBinary r
  | _ => do
    let (negative, r) := unsigned t
    let n : Int := ofDigits 10 (← decimalDigits r)
    let n := if negative then -n else n
    if fits64 n then some (.integer n) else none

/-- The exponent of a number, as it stands after its mark. -/
private def exponent? (t : Text) : Option Int := do
  let (negative, r) := unsigned t
  let n : Int := ofDigits 10 (← digitRun Char.isDigit r)
  return if negative then -n else n

def float? (t : Text) : Option Data := do
  let (_, r) := unsigned t
  if r = "inf".toList || r = "nan".toList then return .scalar t
  let isMark (c : Char) : Bool := c == 'e' || c == 'E'
  let mantissa := r.takeWhile (!isMark ·)
  let exponent ← match r.dropWhile (!isMark ·) with
    | [] => some none
    | _ :: e => (exponent? e).map some
  let whole ← decimalDigits (mantissa.takeWhile (· != '.'))
  let fraction ← match mantissa.dropWhile (· != '.') with
    | [] => some none
    | _ :: f => (digitRun Char.isDigit f).map some
  if exponent.isNone && fraction.isNone then none
  let ds := whole ++ fraction.getD []
  if Double.fits (ofDigits 10 ds) (exponent.getD 0 - (fraction.getD []).length) then
    some (.scalar t)
  else none

/-! ## Dates -/

/-- The number that two digits write. -/
private def pair? (a b : Char) : Option Nat :=
  if a.isDigit && b.isDigit then some (ofDigits 10 [a, b]) else none

def isLeapYear (y : Nat) : Bool := y % 4 == 0 && (y % 100 != 0 || y % 400 == 0)

def daysInMonth (y m : Nat) : Nat :=
  if m = 2 then (if isLeapYear y then 29 else 28)
  else if m = 4 || m = 6 || m = 9 || m = 11 then 30
  else 31

/-- A date at the beginning of a text, and what follows. -/
def date? : Text → Option Text
  | a :: b :: c :: d :: '-' :: e :: f :: '-' :: g :: h :: r => do
    let y := 100 * (← pair? a b) + (← pair? c d)
    let m ← pair? e f
    let day ← pair? g h
    if 1 ≤ m && m ≤ 12 && 1 ≤ day && day ≤ daysInMonth y m then some r else none
  | _ => none

/-- Seconds, if they are given, with their fraction. -/
private def seconds? : Text → Option Text
  | ':' :: a :: b :: r => do
    if (← pair? a b) > 60 then none
    match r with
    | '.' :: f =>
      let rest := f.dropWhile Char.isDigit
      if rest.length < f.length then some rest else none
    | _ => some r
  | ':' :: _ => none
  | r => some r

/-- A time at the beginning of a text, and what follows. -/
def time? : Text → Option Text
  | a :: b :: ':' :: c :: d :: r => do
    if (← pair? a b) > 23 || (← pair? c d) > 59 then none
    seconds? r
  | _ => none

/-- Nothing or an offset from universal time. -/
def isOffset : Text → Bool
  | [] => true
  | ['Z'] | ['z'] => true
  | [s, a, b, ':', c, d] =>
    (s == '+' || s == '-') && (pair? a b).any (· ≤ 23) && (pair? c d).any (· ≤ 59)
  | _ => false

def isDateTime (t : Text) : Bool :=
  match date? t with
  | some [] => true
  | some (c :: r) => (c == 'T' || c == 't' || c == ' ') && (time? r).any isOffset
  | none => time? t == some []

/-- A date or a time as data: an object with one field. -/
def moment (t : Text) : Data := .object [("moment".toList, .string t)]

/-- A scalar that is not quoted. -/
def scalar? (t : Text) : Option Data :=
  if t = "true".toList then some (.bool true)
  else if t = "false".toList then some (.bool false)
  else if isDateTime t then some (moment t)
  else integer? t <|> float? t

end Graft.Toml
