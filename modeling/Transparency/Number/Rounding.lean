/-! Rounding a quotient to a binary floating-point number: to the nearest, a half to the even
neighbour. -/
namespace Transparency.Number

/-- The numbers `significand * 2 ^ exponent` with a significand below `2 ^ precision` and an exponent
between the two bounds. -/
structure Format where
  precision : Nat
  minExponent : Int
  maxExponent : Int

namespace Format

/-- Single precision. -/
def single : Format := ⟨24, -149, 104⟩

/-- Double precision. -/
def double : Format := ⟨53, -1074, 971⟩

/-- The least significand that uses all the digits of the format. -/
def leastFull (format : Format) : Nat := 1 <<< (format.precision - 1)

end Format

/-- The quotient rounded to a natural number, a half to the even neighbour. -/
def divideNearest (numerator denominator : Nat) : Nat :=
  let quotient := numerator / denominator
  let twice := 2 * (numerator % denominator)
  if denominator < twice || (denominator == twice && quotient % 2 == 1) then quotient + 1
  else quotient

/-- The quotient rounded to a multiple of `2 ^ exponent`, in units of that power. -/
def divideScaled (numerator denominator : Nat) (exponent : Int) : Nat :=
  divideNearest (numerator <<< (-exponent).toNat) (denominator <<< exponent.toNat)

/-- The exponent at which the quotient of two positive numbers has all the digits of the format, or
the least exponent if that is larger. -/
def Format.exponentOf (format : Format) (numerator denominator : Nat) : Int :=
  let guess : Int := (numerator.log2 : Int) - denominator.log2 - (format.precision - 1 : Nat)
  let full := (numerator <<< (-guess).toNat) / (denominator <<< guess.toNat)
  max format.minExponent (if full < format.leastFull then guess - 1 else guess)

/-- The number of the format nearest to the quotient, as significand and exponent, or nothing if it
is too large for the format. -/
def Format.round? (format : Format) (numerator denominator : Nat) : Option (Nat × Int) :=
  if numerator = 0 then some (0, format.minExponent)
  else
    let exponent := format.exponentOf numerator denominator
    let significand := divideScaled numerator denominator exponent
    let (significand, exponent) :=
      if significand = 2 * format.leastFull then (format.leastFull, exponent + 1)
      else (significand, exponent)
    if format.maxExponent < exponent then none else some (significand, exponent)

/-- The 32 bits of the single-precision number nearest to an integer of at most 64 bits. -/
def singleBits (n : Int) : Nat :=
  match Format.single.round? n.natAbs 1 with
  | none | some (0, _) => 0
  | some (significand, exponent) =>
    (if n < 0 then 1 <<< 31 else 0) + (exponent + 150).toNat <<< 23 +
      (significand - Format.single.leastFull)

end Transparency.Number
