import Graft.Shell.Format
import Graft.Shell.Tool.Basic

/-!
# Values of a report program

A value is a number or a text; a text of the input counts as a number if it looks like one.
-/
namespace Graft.Shell.Tool.Awk

inductive Value where
  | unset
  | number (x : Float)
  | text (b : Bytes)
  /-- A text of the input. -/
  | given (b : Bytes)

/-- The number at the beginning of a text. -/
def leadingNumber (b : Bytes) : Float :=
  match b with
  | [c] => if c.isDigit then Float.ofNat (c.toNat - '0'.toNat) else 0
  | b => ((Format.leadingFloat? b).map (·.1)).getD 0

/-- The number that a text as a whole looks like. -/
def wholeNumber? (b : Bytes) : Option Float :=
  let t := b.dropWhile isSpace
  match t with
  | [] => none
  | c :: _ =>
    if !(c.isDigit || c == '+' || c == '-' || c == '.') then none
    else
      let t := (t.reverse.dropWhile isSpace)
      if !(t.head?.any fun c => c.isDigit || c == '.') then none
      else
        match Format.leadingFloat? t.reverse with
        | some (x, []) => some x
        | _ => none

/-- A number as an integer, if it is one that can be written without a fraction. -/
def integral? (x : Float) : Option Int :=
  if x.abs < 4503599627370496.0 then
    let n : Int := x.abs.toUInt64.toNat
    if Float.ofInt n == x.abs then some (if x < 0 then -n else n) else none
  else
    match Decimal.Value.ofFloat x with
    | .finite negative ⟨n, 1⟩ =>
      if negative then if n ≤ Nat.pow 2 63 then some (-n) else none
      else if n ≤ Nat.pow 2 64 then some (min n (Int.pow 2 64 - 1)) else none
    | _ => none

/-- A number in the notation of a format such as `%.6g`. -/
def formatted (format : Bytes) (x : Float) : Bytes :=
  let before := format.takeWhile (· != '%')
  match format.drop before.length with
  | '%' :: r =>
    let (f, rest, _, _) := Format.field r []
    match rest with
    | c :: rest =>
      let v := match Decimal.Value.ofFloat x with
        | .nan _ => .nan true
        | v => v
      let t := match c with
        | 'd' | 'i' => Format.fillSigned f (x.toInt64.toInt)
        | _ => Format.fillFloat f c v
      before ++ t ++ rest
    | [] => format
  | _ => format

/-- A number as a text. -/
def numberText (format : Bytes) (x : Float) : Bytes :=
  match integral? x with
  | some n => (toString n).toList
  | none => formatted format x

namespace Value

def toNumber : Value → Float
  | unset => 0
  | number x => x
  | text b | given b => leadingNumber b

def toText (format : Bytes) : Value → Bytes
  | unset => []
  | number x => numberText format x
  | text b | given b => b

def isTrue : Value → Bool
  | unset => false
  | number x => x != 0
  | text b => !b.isEmpty
  | given b =>
    match wholeNumber? b with
    | some x => x != 0
    | none => !b.isEmpty

/-- The number that a value is, if it is one. -/
def number? : Value → Option Float
  | unset => some 0
  | number x => some x
  | text _ => none
  | given b => wholeNumber? b

def ofBool (b : Bool) : Value := .number (if b then 1 else 0)

/-- How two values compare: as numbers if both are, else as texts. -/
def compare (format : Bytes) (a b : Value) : Ordering :=
  let texts : Ordering := List.compareLex Ord.compare (a.toText format) (b.toText format)
  match a.number?, b.number? with
  | some x, some y => if x < y then .lt else if x == y then .eq else .gt
  | _, _ => texts

end Value

end Graft.Shell.Tool.Awk
