import Preflight.Number.Shortest

/-! Decimal digits of a double-precision number to a chosen place, rounded from its exact value; a
tie goes to the even digit. -/
namespace Preflight.Binary64

/-- A finite number in units of `10 ^ (-places)`, as a whole number of them. -/
def inUnits (mantissa : Nat) (exponent places : Int) : Nat :=
  let (num, den) := ratio mantissa exponent
  if 0 ≤ places then roundDiv (num * Nat.pow 10 places.toNat) den
  else roundDiv num (den * Nat.pow 10 (-places).toNat)

/-- The digits before the point and the `places` digits behind it. -/
def fixed (mantissa : Nat) (exponent : Int) (places : Nat) : List Char × List Char :=
  let ds := (Nat.toDigits 10 (inUnits mantissa exponent places)).leftpad (places + 1) '0'
  (ds.take (ds.length - places), ds.drop (ds.length - places))

/-- The first `count` digits and the power of ten of the first one. A carry out of the first digit
raises the power. -/
def significant (mantissa : Nat) (exponent : Int) (count : Nat) : List Char × Int :=
  if mantissa = 0 then (List.replicate count '0', 0)
  else
    let point := (span mantissa exponent).point
    let ds := Nat.toDigits 10 (inUnits mantissa exponent (count - point))
    (ds.take count, point - 1 + ((ds.length : Int) - count))

theorem length_fixed (mantissa : Nat) (exponent : Int) (places : Nat) :
    (fixed mantissa exponent places).2.length = places := by
  simp only [fixed, List.length_drop, List.leftpad, List.length_append, List.length_replicate]
  omega

end Preflight.Binary64
