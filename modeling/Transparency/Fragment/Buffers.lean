import Transparency.Frame.Context
import Transparency.Shader.Layout

/-! The five buffers that hold the fragments of a frame. -/
namespace Transparency.Fragment
open Buffer (Handle Access Binding)
open Transparency.Frame (Key Context)

/-- The fragment buffers. -/
structure Buffers where
  counter : Handle
  indices : Handle
  data : Handle
  depth : Handle
  uniforms : Handle
  deriving DecidableEq, Repr

namespace Buffers

/-- The buffers that the shaders see as storage. -/
def storage (buffers : Buffers) : List Handle :=
  [buffers.counter, buffers.indices, buffers.data, buffers.depth]

/-- The buffers under their keys in the frame context. -/
def entries (buffers : Buffers) : List (Key × Handle) :=
  [(.counterBuffer, buffers.counter), (.indexBuffer, buffers.indices),
    (.dataBuffer, buffers.data), (.depthBuffer, buffers.depth),
    (.uniformBuffer, buffers.uniforms)]

/-- The buffers in order. -/
def toList (buffers : Buffers) : List Handle := buffers.entries.map (·.2)

/-- Five buffers in order. -/
def ofList? : List Handle → Option Buffers
  | [counter, indices, data, depth, uniforms] => some { counter, indices, data, depth, uniforms }
  | _ => none

/-- The buffers of a frame context, if it has all of them. -/
def ofContext? (context : Context) : Option Buffers := do
  let counter ← context.buffer? .counterBuffer
  let indices ← context.buffer? .indexBuffer
  let data ← context.buffer? .dataBuffer
  let depth ← context.buffer? .depthBuffer
  let uniforms ← context.buffer? .uniformBuffer
  return { counter, indices, data, depth, uniforms }

/-- Puts the buffers into a frame context. -/
def publish (buffers : Buffers) (context : Context) : Context :=
  buffers.entries.foldl (fun context (key, handle) => context.setBuffer key handle) context

/-- The bindings of a pass that uses the storage buffers in the given way. -/
def bindings (buffers : Buffers) (access : Access) : List Binding :=
  [⟨Shader.counterBinding, buffers.counter, access⟩, ⟨Shader.indexBinding, buffers.indices, access⟩,
    ⟨Shader.dataBinding, buffers.data, access⟩, ⟨Shader.depthBinding, buffers.depth, access⟩,
    ⟨Shader.uniformBinding, buffers.uniforms, .uniform⟩]

/-- The bindings of a pass that adds fragments. -/
def forWriting (buffers : Buffers) : List Binding := buffers.bindings .readWriteStorage

/-- The bindings of a pass that reads fragments. -/
def forReading (buffers : Buffers) : List Binding := buffers.bindings .readOnlyStorage

end Buffers

end Transparency.Fragment
