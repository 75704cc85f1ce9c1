/-! The fixed-function state of a pass. -/
namespace Transparency

/-- What a color is multiplied with before blending. -/
inductive BlendFactor
  | zero
  | one
  | src
  | oneMinusSrc
  | srcAlpha
  | oneMinusSrcAlpha
  | dst
  | oneMinusDst
  | dstAlpha
  | oneMinusDstAlpha
  | srcAlphaSaturated
  | constant
  | oneMinusConstant
  | src1
  | oneMinusSrc1
  | src1Alpha
  | oneMinusSrc1Alpha
  deriving DecidableEq, Repr

/-- The name of the factor. -/
def BlendFactor.name : BlendFactor → String
  | zero => "Zero"
  | one => "One"
  | src => "Src"
  | oneMinusSrc => "OneMinusSrc"
  | srcAlpha => "SrcAlpha"
  | oneMinusSrcAlpha => "OneMinusSrcAlpha"
  | dst => "Dst"
  | oneMinusDst => "OneMinusDst"
  | dstAlpha => "DstAlpha"
  | oneMinusDstAlpha => "OneMinusDstAlpha"
  | srcAlphaSaturated => "SrcAlphaSaturated"
  | constant => "Constant"
  | oneMinusConstant => "OneMinusConstant"
  | src1 => "Src1"
  | oneMinusSrc1 => "OneMinusSrc1"
  | src1Alpha => "Src1Alpha"
  | oneMinusSrc1Alpha => "OneMinusSrc1Alpha"

/-- How the two weighted colors are put together. -/
inductive BlendOperation
  | add
  | subtract
  | reverseSubtract
  | min
  | max
  deriving DecidableEq, Repr

/-- The name of the operation. -/
def BlendOperation.name : BlendOperation → String
  | add => "Add"
  | subtract => "Subtract"
  | reverseSubtract => "ReverseSubtract"
  | min => "Min"
  | max => "Max"

/-- The blending of a channel. -/
structure BlendComponent where
  source : BlendFactor
  destination : BlendFactor
  operation : BlendOperation := .add
  deriving DecidableEq, Repr

/-- The blending of a pass. -/
structure Blend where
  color : BlendComponent
  alpha : BlendComponent
  deriving DecidableEq, Repr

namespace Blend

/-- Puts premultiplied colors over what is there. -/
def premultipliedOver : Blend := ⟨⟨.one, .oneMinusSrcAlpha, .add⟩, ⟨.one, .oneMinusSrcAlpha, .add⟩⟩

/-- Replaces what is there. -/
def replace : Blend := ⟨⟨.one, .zero, .add⟩, ⟨.one, .zero, .add⟩⟩

/-- Puts colors over what is there by their alpha. -/
def alphaOver : Blend := ⟨⟨.srcAlpha, .oneMinusSrcAlpha, .add⟩, ⟨.one, .oneMinusSrcAlpha, .add⟩⟩

end Blend

/-- The channels that a pass writes, one bit each. -/
abbrev ColorMask := BitVec 4

/-- Depth, color and blending of a pass. -/
structure PassState where
  depthTest : Bool := true
  depthWrite : Bool := true
  mask : ColorMask := .allOnes 4
  blend : Option Blend := none
  deriving DecidableEq, Repr

namespace PassState

/-- The state of the resolve pass: all channels, blended over the opaque scene, without depth. -/
def resolve : PassState where
  depthTest := false
  depthWrite := false
  blend := some .premultipliedOver

/-- Whether the pass blends. -/
def blends (state : PassState) : Bool := state.blend.isSome

end PassState

end Transparency
