/-! What buffers are for, and what they hold. -/
namespace Transparency.Buffer

/-- What a buffer is for. -/
inductive Role
  /-- The fragment allocator and the head of the list of each pixel. -/
  | counter
  /-- The next fragment after each fragment. -/
  | indices
  /-- The color of each fragment. -/
  | data
  /-- The depth of each fragment. -/
  | depth
  /-- The size of the screen. -/
  | uniforms
  /-- Any other use, by name. -/
  | named (name : String)
  deriving DecidableEq, Repr

namespace Role

/-- The name of the role. -/
def name : Role → String
  | counter => "oitCounter"
  | indices => "oitIndices"
  | data => "oitData"
  | depth => "oitDepth"
  | uniforms => "oitUniforms"
  | named name => name

/-- The roles of the fragment buffers. -/
def builtIn : List Role := [counter, indices, data, depth, uniforms]

/-- The role in an error message. -/
def debugText : Role → String
  | counter => "OitCounter"
  | indices => "OitIndices"
  | data => "OitData"
  | depth => "OitDepth"
  | uniforms => "OitUniforms"
  | named name => "Named(" ++ name ++ ")"

end Role

/-- How shaders see a buffer. -/
inductive Kind
  | storage
  | uniform
  deriving DecidableEq, Repr

namespace Kind

/-- Both kinds. -/
def all : List Kind := [storage, uniform]

/-- The name of the kind. -/
def name : Kind → String
  | storage => "Storage"
  | uniform => "Uniform"

end Kind

/-- The type of one field of an element. -/
inductive Element
  | int32
  | int32x2
  | float32
  | float32x4
  deriving DecidableEq, Repr

namespace Element

/-- All types of fields. -/
def all : List Element := [int32, int32x2, float32, float32x4]

/-- The name of the type. -/
def name : Element → String
  | int32 => "Int32"
  | int32x2 => "Int32x2"
  | float32 => "Float32"
  | float32x4 => "Float32x4"

/-- The bytes that a field takes. -/
def size : Element → Nat
  | int32 | float32 => 4
  | int32x2 => 8
  | float32x4 => 16

end Element

/-- A named field of an element. -/
structure Field where
  name : String
  element : Element
  deriving DecidableEq, Repr

/-- What a caller tells about the use of a buffer. -/
structure UsageHint where
  /-- The number of elements will change. -/
  sizeVarying : Bool := false
  /-- The contents are filled from outside the shaders. -/
  cpuFilled : Bool := false
  deriving DecidableEq, Repr

/-- The names and bits of the hints. -/
def UsageHint.table : List (String × Nat) := [("SIZE_VARYING", 1), ("CPU_FILLED", 2)]

/-- The hints whose bits are set in a word. -/
def UsageHint.ofBits (bits : Nat) : UsageHint := ⟨bits.testBit 0, bits.testBit 1⟩

end Transparency.Buffer
