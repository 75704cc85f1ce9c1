/-! Integers in decimal digits. -/
namespace Transparency.Text

/-- The digits of an integer, after a minus sign if it is negative. -/
def decimalChars (n : Int) : List Char :=
  if n < 0 then '-' :: Nat.toDigits 10 n.natAbs else Nat.toDigits 10 n.natAbs

/-- The text of an integer. -/
def decimal (n : Int) : String := String.ofList (decimalChars n)

end Transparency.Text
