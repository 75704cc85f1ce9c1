import Transparency.Error
import Transparency.Shader.Layout

/-! How many elements the fragment buffers need for a screen. -/
namespace Transparency.Fragment

/-- The elements of the counter, and of each of the buffers that hold fragments. -/
structure Capacities where
  counter : Nat
  fragments : Nat
  deriving DecidableEq, Repr

/-- A count of elements, if it fits a word. -/
def counted? (n : Nat) : Option Nat := if n < UInt64.size then some n else none

namespace Capacities

/-- The capacities for a number of pixels: one counter more than pixels, and a fixed number of
fragments for each. -/
def ofPixels? (width height : Nat) : Option Capacities := do
  let pixels ← counted? (width * height)
  let counter ← counted? (pixels + 1)
  let fragments ← counted? (pixels * Shader.samplesPerPixel)
  return ⟨counter, fragments⟩

/-- The capacities for a screen. -/
def ofSize (size : Size) : Except Error Capacities :=
  if size.isNegative then .error (.invalidSize size)
  else
    match ofPixels? size.width.toInt.toNat size.height.toInt.toNat with
    | some capacities => .ok capacities
    | none => .error (.capacityOverflow size)

/-- The capacities for a screen without pixels. -/
def empty : Capacities := ⟨1, 0⟩

end Capacities

end Transparency.Fragment
