import Graft.Data
import Graft.Data.Double

/-!
# Numbers in JSON

A number is kept as a significand of 64 bits and a power of ten. Digits for which the significand
has no room are left out; before the point each of them still counts as a power of ten.
-/
namespace Graft.Json

/-- The value of a decimal, as far as it is kept. -/
structure Decimal where
  significand : Nat
  exponent : Int
  deriving DecidableEq, Repr

namespace Decimal

private def digit (c : Char) : Nat := c.toNat - '0'.toNat

/-- The significand with one more digit, if there is room for it. -/
def append? (significand : Nat) (c : Char) : Option Nat :=
  let n := 10 * significand + digit c
  if n < Nat.pow 2 64 then some n else none

/-- The digits before the point. From the first that has no room on, all are left out. -/
def whole (significand : Nat) : Text → Decimal
  | [] => ⟨significand, 0⟩
  | c :: r =>
    match append? significand c with
    | some n => whole n r
    | none => ⟨significand, (c :: r).length⟩

/-- The digits after the point, up to the first that has no room. -/
def fraction (d : Decimal) : Text → Decimal
  | [] => d
  | c :: r =>
    match append? d.significand c with
    | some n => fraction ⟨n, d.exponent - 1⟩ r
    | none => d

/-- The decimal times ten to the power that `digits` write. A power of 31 bits or more makes the
number zero or infinite. -/
def scale (d : Decimal) (negative : Bool) (digits : Text) : Decimal :=
  let n : Int := digits.foldl (fun n c => 10 * n + digit c) 0
  if n < Int.pow 2 31 then ⟨d.significand, d.exponent + if negative then -n else n⟩
  else if negative then ⟨0, 0⟩
  else ⟨d.significand, n⟩

def isFinite (d : Decimal) : Bool := Double.fitsRounded d.significand d.exponent

end Decimal

private def digits (t : Text) : Text × Text := t.span Char.isDigit

/-- The sign of an exponent, if it is a minus, and what follows the sign. -/
private def signed : Text → Bool × Text
  | '-' :: r => (true, r)
  | '+' :: r => (false, r)
  | t => (false, t)

/-- A number at the beginning of a text. It is an integer if it has neither point nor exponent. -/
def number (literal : Text) : Option (Data × Text) := do
  let (negative, t) := match literal with
    | '-' :: r => (true, r)
    | _ => (false, literal)
  let (whole, t) := match t with
    | '0' :: r => (['0'], r)
    | _ => digits t
  if whole.isEmpty then none
  let (fraction?, t) ← match t with
    | '.' :: r =>
      let (ds, r') := digits r
      if ds.isEmpty then none else some (some ds, r')
    | _ => some (none, t)
  let (exponent?, t) ← match t with
    | c :: r =>
      if c = 'e' || c = 'E' then
        let (minus, r) := signed r
        let (ds, r') := digits r
        if ds.isEmpty then none else some (some (minus, ds), r')
      else some (none, t)
    | [] => some (none, t)
  let kept := (Decimal.whole 0 whole).fraction (fraction?.getD [])
  let kept := match exponent? with
    | some (minus, ds) => kept.scale minus ds
    | none => kept
  if !kept.isFinite then none
  let n : Int := whole.foldl (fun n d => 10 * n + (d.toNat - '0'.toNat)) 0
  if fraction?.isNone && exponent?.isNone && !(negative && n == 0) then
    return (.integer (if negative then -n else n), t)
  else
    return (.scalar (literal.take (literal.length - t.length)), t)

end Graft.Json
