/-!
# Ranges of doubles

A double has 53 binary digits and is below `2 ^ 1024`. Numbers are rounded to the nearest double, a
half to the even neighbour.
-/
namespace Graft.Double

/-- The least number that is rounded beyond the largest double. -/
def limit : Nat := Nat.pow 2 1024 - Nat.pow 2 970

/-- The number nearest to `n` that has at most 53 significant binary digits. -/
def nearest (n : Nat) : Nat :=
  if n < Nat.pow 2 53 then n
  else
    let unit := Nat.pow 2 (Nat.log2 n - 52)
    let q := n / unit
    let r := n % unit
    (if unit < 2 * r || (unit == 2 * r && q % 2 == 1) then q + 1 else q) * unit

/-- Whether `mantissa · 10 ^ exponent` rounds to a double. -/
def fits (mantissa : Nat) (exponent : Int) : Bool :=
  if mantissa = 0 then true
  else if exponent < 0 then
    let shift := exponent.natAbs
    if (Nat.toDigits 10 mantissa).length ≤ shift then true else mantissa < limit * Nat.pow 10 shift
  else if exponent > 400 then false
  else mantissa * Nat.pow 10 exponent.toNat < limit

/-- Whether the product of `significand` and `10 ^ exponent` stays finite when both factors are
rounded to doubles first. There is no double for a power above `10 ^ 308`. -/
def fitsRounded (significand : Nat) (exponent : Int) : Bool :=
  if significand = 0 || exponent < 0 then true
  else if exponent > 308 then false
  else nearest significand * nearest (Nat.pow 10 exponent.toNat) < limit

end Graft.Double
