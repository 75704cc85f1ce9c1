import Transparency.Number.Rounding

/-! Finite double-precision numbers, held exactly. -/
namespace Transparency.Number

/-- The number `± significand * 2 ^ exponent`; zero has a sign too. -/
structure Double where
  negative : Bool
  significand : Nat
  exponent : Int
  deriving DecidableEq, Repr

namespace Double

/-- Positive zero. -/
def zero : Double := ⟨false, 0, Format.double.minExponent⟩

/-- Whether the number is zero of either sign. -/
def isZero (x : Double) : Bool := x.significand == 0

/-- The number with the given sign. -/
def withSign (x : Double) (negative : Bool) : Double := { x with negative }

/-- The double nearest to `numerator / denominator * 2 ^ shift`, or nothing beyond the largest. -/
def ofQuotient? (numerator denominator : Nat) (shift : Int) : Option Double :=
  (Format.double.round? (numerator <<< shift.toNat) (denominator <<< (-shift).toNat)).map
    fun (significand, exponent) => ⟨false, significand, exponent⟩

/-- The double nearest to a natural number. -/
def ofNat? (n : Nat) : Option Double := ofQuotient? n 1 0

/-- The double nearest to the product of two magnitudes. -/
def mul? (x y : Double) : Option Double :=
  ofQuotient? (x.significand * y.significand) 1 (x.exponent + y.exponent)

/-- The double nearest to the quotient of two magnitudes. -/
def div? (x y : Double) : Option Double :=
  ofQuotient? x.significand y.significand (x.exponent - y.exponent)

/-- The double nearest to a power of ten. -/
def powerOfTen? (exponent : Nat) : Option Double := ofNat? (Nat.pow 10 exponent)

/-- The largest power of ten below the largest double. -/
def maxPower : Nat := 308

/-- Divides by `10 ^ exponent`, in steps of the largest power of ten, each of them rounded; stops at
zero. -/
def scaleDown? (x : Double) (exponent : Nat) : Option Double :=
  if exponent ≤ maxPower then do x.div? (← powerOfTen? exponent)
  else if x.isZero then some x
  else do
    let smaller ← x.div? (← powerOfTen? maxPower)
    smaller.scaleDown? (exponent - maxPower)
termination_by exponent
decreasing_by simp only [maxPower] at *; omega

/-- The double read for `digits * 10 ^ exponent`: the digits are rounded first, then multiplied or
divided by the rounded power of ten. Nothing if the result is too large. -/
def ofDecimal? (digits : Nat) (exponent : Int) : Option Double := do
  let x ← ofNat? digits
  if exponent < 0 then x.scaleDown? (-exponent).toNat
  else if exponent.toNat ≤ maxPower then x.mul? (← powerOfTen? exponent.toNat)
  else if x.isZero then some x
  else none

end Double

end Transparency.Number
