import Transparency.Bytes
import Transparency.Text.Decimal

/-! The size of a screen in pixels. -/
namespace Transparency

/-- Width and height, as signed words; a rejected size may be negative. -/
structure Size where
  width : Int32 := 0
  height : Int32 := 0
  deriving DecidableEq, Repr

namespace Size

/-- The longest axis. -/
def maxAxis : Nat := 2147483647

/-- A square. -/
def square (side : Int32) : Size := ⟨side, side⟩

/-- Whether an axis is negative. -/
def isNegative (size : Size) : Bool := size.width < 0 || size.height < 0

/-- Whether the size reaches at least as far as another one on both axes. -/
def covers (size other : Size) : Bool := other.width ≤ size.width && other.height ≤ size.height

/-- The larger value on each axis. -/
def sup (size other : Size) : Size where
  width := if size.width ≤ other.width then other.width else size.width
  height := if size.height ≤ other.height then other.height else size.height

/-- The size in a message. -/
def text (size : Size) : String :=
  Text.decimal size.width.toInt ++ "x" ++ Text.decimal size.height.toInt

/-- The size as the shaders read it. -/
def bytes (size : Size) : List UInt8 := Bytes.ofInt32 size.width ++ Bytes.ofInt32 size.height

end Size

end Transparency
