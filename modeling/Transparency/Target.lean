import Transparency.Text.Decimal

/-! Render targets: what a pass draws to. -/
namespace Transparency

/-- Identifies a render target: its label, and which registration of that label it is. -/
structure TargetId where
  label : Int
  registration : Nat := 0
  deriving DecidableEq, Repr

/-- The name of a texture format. -/
structure TextureFormat where
  name : String
  deriving DecidableEq, Repr

/-- Whether a format holds depth or stencil values. -/
def TextureFormat.isDepth (format : TextureFormat) : Bool :=
  "Depth".toList.isPrefixOf format.name.toList || "Stencil".toList.isPrefixOf format.name.toList

/-- A color, by channel. The channels are floating-point numbers to the device; all that are given
are whole ones. -/
structure Color where
  red : Int
  green : Int
  blue : Int
  alpha : Int
  deriving DecidableEq, Repr

/-- A render target as the passes of a frame bind it. -/
structure Target where
  name : String
  id : TargetId
  width : UInt32
  height : UInt32
  format : TextureFormat
  /-- What the target is cleared to, if it is cleared at all. -/
  clear : Option Color := none
  deriving DecidableEq, Repr

namespace Target

/-- Whether the target holds depth or stencil values. -/
def isDepth (target : Target) : Bool := target.format.isDepth

/-- The target without its clear value, so that a pass keeps what is there. -/
def kept (target : Target) : Target := { target with clear := none }

end Target

end Transparency
