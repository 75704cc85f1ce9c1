import Transparency.Number.Double
import Transparency.Text.Decimal

/-! The text of a double: the fewest decimal digits that no other double is nearer to. -/
namespace Transparency.Number

/-- The number `digits * 10 ^ exponent`. -/
structure Decimal where
  digits : Nat
  exponent : Int
  deriving DecidableEq, Repr

/-- Compares `a * 10 ^ i` with `n * 2 ^ j`. -/
def compareScaled (a : Nat) (i : Int) (n : Nat) (j : Int) : Ordering :=
  compare ((a * Nat.pow 10 i.toNat) <<< (-j).toNat) ((n * Nat.pow 10 (-i).toNat) <<< j.toNat)

namespace Double

/-- Whether the double below is half as far away as the double above. -/
def narrowBelow (x : Double) : Bool :=
  x.significand == Format.double.leastFull && Format.double.minExponent < x.exponent

/-- Whether the decimal rounds to the magnitude of the double: it lies between the two midpoints
next to it, or on one of them if the significand is even. -/
def readsBack (x : Double) (d : Decimal) : Bool :=
  let low := if x.narrowBelow then 4 * x.significand - 1 else 4 * x.significand - 2
  let high := 4 * x.significand + 2
  let even := x.significand % 2 == 0
  let fromLow := compareScaled d.digits d.exponent low (x.exponent - 2)
  let toHigh := compareScaled d.digits d.exponent high (x.exponent - 2)
  (fromLow == .gt || (even && fromLow == .eq)) && (toHigh == .lt || (even && toHigh == .eq))

/-- An exponent `k` with the magnitude below `10 ^ k`, and not below `10 ^ (k - 2)`. -/
def decimalScale (x : Double) : Int :=
  let binary : Int := (x.significand.log2 : Int) + x.exponent
  let guess := binary * 30103 / 100000 + 1
  if compareScaled 1 guess x.significand x.exponent == .gt then guess else guess + 1

/-- The nearest multiple of `10 ^ exponent` that reads back; of two equally near ones the upper. -/
def onGrid? (x : Double) (exponent : Int) : Option Decimal :=
  let below :=
    (x.significand * Nat.pow 10 (-exponent).toNat) <<< x.exponent.toNat /
      Nat.pow 10 exponent.toNat <<< (-x.exponent).toNat
  let lower : Decimal := ⟨below, exponent⟩
  let upper : Decimal := ⟨below + 1, exponent⟩
  match x.readsBack lower, x.readsBack upper with
  | false, false => none
  | true, false => some lower
  | false, true => some upper
  | true, true =>
    if compareScaled (2 * below + 1) exponent (2 * x.significand) x.exponent == .gt then some lower
    else some upper

/-- The exact value of the magnitude. -/
def exactDecimal (x : Double) : Decimal :=
  ⟨(x.significand * Nat.pow 5 (-x.exponent).toNat) <<< x.exponent.toNat, min x.exponent 0⟩

/-- The first decimal found on ever finer grids. The first grid is so coarse that the magnitude lies
below its first positive point, so a decimal found later is on no coarser grid and does not end in
zero. -/
def shortest (x : Double) : Decimal :=
  let scale := x.decimalScale
  ((List.range 19).findSome? fun (n : Nat) => x.onGrid? (scale - n)).getD x.exactDecimal

end Double

/-- A decimal written out without an exponent, with at least one digit on either side of the
point. -/
def Decimal.positional (d : Decimal) : List Char :=
  let digits := Nat.toDigits 10 d.digits
  let places := (-d.exponent).toNat
  if places = 0 then digits ++ List.replicate d.exponent.toNat '0' ++ ['.', '0']
  else if places < digits.length then
    digits.take (digits.length - places) ++ '.' :: digits.drop (digits.length - places)
  else ['0', '.'] ++ List.replicate (places - digits.length) '0' ++ digits

/-- The power of ten of the leading digit. -/
def Decimal.leadingExponent (d : Decimal) : Int :=
  d.exponent + ((Nat.toDigits 10 d.digits).length - 1 : Nat)

/-- A decimal written with one digit before the point and an exponent. -/
def Decimal.scientific (d : Decimal) : List Char :=
  let exponent := Text.decimalChars d.leadingExponent
  match Nat.toDigits 10 d.digits with
  | [] => []
  | [digit] => digit :: 'e' :: exponent
  | digit :: more => digit :: '.' :: more ++ 'e' :: exponent

namespace Double

/-- The text of a double around the text of its magnitude. -/
def render (x : Double) (magnitude : Decimal → List Char) : String :=
  let chars := if x.isZero then ['0', '.', '0'] else magnitude x.shortest
  String.ofList (if x.negative then '-' :: chars else chars)

/-- The text of a double, never with an exponent. -/
def plainText (x : Double) : String := x.render Decimal.positional

/-- The text of a double, with an exponent if the magnitude is below `10 ^ -4` or not below
`10 ^ 16`. -/
def compactText (x : Double) : String :=
  x.render fun d =>
    if -4 ≤ d.leadingExponent ∧ d.leadingExponent < 16 then d.positional else d.scientific

end Double

end Transparency.Number
