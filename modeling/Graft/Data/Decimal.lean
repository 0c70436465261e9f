import Graft.Data.Double
import Graft.Text

/-!
# Decimal notation

How a fraction is written with a given number of digits. A value between two decimals goes to the
nearer one, a half to the even neighbour.
-/
namespace Graft.Decimal

/-- A fraction that is not negative. -/
structure Fraction where
  num : Nat
  den : Nat
  deriving DecidableEq, Repr

/-- The quotient, rounded. -/
def roundDiv (n d : Nat) : Nat :=
  let q := n / d
  let r := n % d
  if d < 2 * r || (d == 2 * r && q % 2 == 1) then q + 1 else q

/-- The digits of a number, at least `width` of them. -/
def padded (width n : Nat) : Text :=
  let ds := (toString n).toList
  List.replicate (width - ds.length) '0' ++ ds

/-- The fraction times a power of ten, rounded. -/
def scaled (q : Fraction) (power : Int) : Nat :=
  if power < 0 then roundDiv q.num (q.den * Nat.pow 10 power.natAbs)
  else roundDiv (q.num * Nat.pow 10 power.toNat) q.den

/-- The power of ten of the first digit of a fraction that is not zero. -/
def magnitude (q : Fraction) : Int :=
  let guess : Int := ((toString q.num).length : Int) - (toString q.den).length
  let isLess (k : Int) : Bool :=
    if k < 0 then q.num * Nat.pow 10 k.natAbs < q.den else q.num < q.den * Nat.pow 10 k.toNat
  if isLess guess then guess - 1 else guess

/-- The digits before and after the point, with so many after it. -/
def fixed (q : Fraction) (places : Nat) : Text × Text :=
  let ds := padded (places + 1) (scaled q places)
  (ds.take (ds.length - places), ds.drop (ds.length - places))

/-- The first digit, so many more, and the power of ten of the first. -/
def scientific (q : Fraction) (places : Nat) : Char × Text × Int :=
  if q.num = 0 then ('0', List.replicate places '0', 0)
  else
    let k := magnitude q
    let n := scaled q (places - k)
    let (n, k) := if n < Nat.pow 10 (places + 1) then (n, k) else (n / 10, k + 1)
    let ds := padded (places + 1) n
    (ds.headD '0', ds.tail, k)

private def dropZeros (ds : Text) : Text := (ds.reverse.dropWhile (· == '0')).reverse

private def pointed (marked : Bool) (whole places : Text) : Text :=
  if places.isEmpty && !marked then whole else whole ++ '.' :: places

private def power (upper : Bool) (k : Int) : Text :=
  (if upper then 'E' else 'e') :: (if k < 0 then '-' else '+') :: padded 2 k.natAbs

/-- Without a power of ten. A point is written if digits follow it or if it is `marked`. -/
def showFixed (marked : Bool) (places : Nat) (q : Fraction) : Text :=
  let (whole, rest) := fixed q places
  pointed marked whole rest

/-- With one digit before the point and a power of ten. -/
def showScientific (upper marked : Bool) (places : Nat) (q : Fraction) : Text :=
  let (first, rest, k) := scientific q places
  pointed marked [first] rest ++ power upper k

/-- With so many significant digits in the shorter of both ways; zeros at the end are left out
unless it is `marked`. -/
def showGeneral (upper marked : Bool) (digits : Nat) (q : Fraction) : Text :=
  let digits := max digits 1
  let (first, rest, k) := scientific q (digits - 1)
  let trim (ds : Text) : Text := if marked then ds else dropZeros ds
  if k < -4 || k ≥ digits then pointed marked [first] (trim rest) ++ power upper k
  else
    let (whole, places) := fixed q ((digits : Int) - 1 - k).toNat
    pointed marked whole (trim places)

/-! ## Doubles -/

/-- A double by what it is. -/
inductive Value where
  | finite (negative : Bool) (q : Fraction)
  | infinite (negative : Bool)
  | nan (negative : Bool)

def Value.ofFloat (x : Float) : Value :=
  let bits := x.toBits.toNat
  let negative := bits ≥ Nat.pow 2 63
  let exponent := bits / Nat.pow 2 52 % 2048
  let fraction := bits % Nat.pow 2 52
  if exponent = 2047 then if fraction = 0 then .infinite negative else .nan negative
  else if exponent = 0 then .finite negative ⟨fraction, Nat.pow 2 1074⟩
  else
    let m := Nat.pow 2 52 + fraction
    if exponent ≥ 1075 then .finite negative ⟨m * Nat.pow 2 (exponent - 1075), 1⟩
    else .finite negative ⟨m, Nat.pow 2 (1075 - exponent)⟩

/-- The decimal number at the beginning of a text without a sign, and what follows: its digits and
its power of ten. -/
def leading? (t : Text) : Option (Nat × Int × Text) :=
  let natural (ds : Text) : Nat := ds.foldl (fun n c => 10 * n + (c.toNat - '0'.toNat)) 0
  let whole := t.takeWhile Char.isDigit
  let r := t.drop whole.length
  let (places, r') := match r with
    | '.' :: f => (f.takeWhile Char.isDigit, f.dropWhile Char.isDigit)
    | _ => ([], r)
  if whole.isEmpty && places.isEmpty then none
  else
    let m := natural (whole ++ places)
    let noPower := (m, -(places.length : Int), r')
    match r' with
    | e :: more =>
      if e == 'e' || e == 'E' then
        let (negative, ds) := match more with
          | '-' :: ds => (true, ds)
          | '+' :: ds => (false, ds)
          | ds => (false, ds)
        let digits := ds.takeWhile Char.isDigit
        if digits.isEmpty then some noPower
        else
          let k : Int := natural digits
          some (m, (if negative then -k else k) - places.length, ds.drop digits.length)
      else some noPower
    | [] => some noPower

/-- The double nearest to a decimal number. -/
def toFloat (mantissa : Nat) (exponent : Int) : Float :=
  if mantissa = 0 then 0
  else if exponent < 0 then
    if (toString mantissa).length + 400 < exponent.natAbs then 0
    else Float.ofScientific mantissa true exponent.natAbs
  else if exponent > 400 then 1.0 / 0.0
  else Float.ofScientific mantissa false exponent.toNat

end Graft.Decimal
