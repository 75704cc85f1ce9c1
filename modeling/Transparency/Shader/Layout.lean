import Transparency.Shader.Program

/-! The layout that shaders and passes agree on. -/
namespace Transparency.Shader
open Json (Value)

/-- The fragments that are kept for each pixel. -/
def samplesPerPixel : Nat := 8

/-- The bind group of the fragment buffers. -/
def bindGroup : UInt32 := 0

/-- The binding of the counter. -/
def counterBinding : UInt32 := 0

/-- The binding of the indices. -/
def indexBinding : UInt32 := 1

/-- The binding of the colors. -/
def dataBinding : UInt32 := 2

/-- The binding of the depths. -/
def depthBinding : UInt32 := 3

/-- The binding of the screen size. -/
def uniformBinding : UInt32 := 4

/-- What the shader templates are rendered with. -/
structure Layout where
  samplesPerPixel : UInt64 := Shader.samplesPerPixel.toUInt64
  /-- Whether the shader adds fragments. -/
  writes : Bool
  group : UInt32 := bindGroup
  counter : UInt32 := counterBinding
  index : UInt32 := indexBinding
  data : UInt32 := dataBinding
  depth : UInt32 := depthBinding
  uniform : UInt32 := uniformBinding
  deriving DecidableEq, Repr

namespace Layout

/-- The variables that a layout defines, in the order of their names. -/
def fields (layout : Layout) : List (String × Value) :=
  [("counter_binding", .number (.integer layout.counter.toNat)),
    ("data_binding", .number (.integer layout.data.toNat)),
    ("depth_binding", .number (.integer layout.depth.toNat)),
    ("index_binding", .number (.integer layout.index.toNat)),
    ("oit_group", .number (.integer layout.group.toNat)),
    ("oit_write", .bool layout.writes),
    ("samples_per_pixel", .number (.integer layout.samplesPerPixel.toNat)),
    ("uniform_binding", .number (.integer layout.uniform.toNat))]

/-- The layout with another number for the variable of the given name; a number that is too large is
cut to the width of the variable. -/
def assign (layout : Layout) (name : String) (n : Nat) : Layout :=
  match name with
  | "samples_per_pixel" => { layout with samplesPerPixel := UInt64.ofNat n }
  | "oit_group" => { layout with group := UInt32.ofNat n }
  | "counter_binding" => { layout with counter := UInt32.ofNat n }
  | "index_binding" => { layout with index := UInt32.ofNat n }
  | "data_binding" => { layout with data := UInt32.ofNat n }
  | "depth_binding" => { layout with depth := UInt32.ofNat n }
  | "uniform_binding" => { layout with uniform := UInt32.ofNat n }
  | _ => layout

/-- The layout as a value. -/
def toValue (layout : Layout) : Value := .object layout.fields

/-- The variables of a layout. -/
def scope (layout : Layout) : String → Option Value := layout.toValue.scope

end Layout

/-- The template of the resolve shader. -/
def resolveTemplate : String := "oit_resolve"

/-- The template of the buffer declarations. -/
def bufferTemplate : String := "chunks/oit_buffers"

/-- The program of the resolve pass, which reads fragments. -/
def resolveProgram : Except Template.Failure Program :=
  Program.compile resolveTemplate (Layout.scope { writes := false })

/-- The declarations for the shaders of passes that add fragments. -/
def producerDeclarations : Except Template.Failure Program :=
  Program.compile bufferTemplate (Layout.scope { writes := true })

end Transparency.Shader
