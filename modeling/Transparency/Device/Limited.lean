import Transparency.Device.Recorder

/-! A device with limits on the size of buffers, which knows its render targets and builds one
pipeline for each kind of draw. -/
namespace Transparency.Device
open Buffer (Role Kind Field UsageHint Handle Source Access)

/-- The uses that a buffer was made for. -/
structure Usage where
  storage : Bool
  uniform : Bool
  /-- Whether bytes can be copied into the buffer. -/
  copyTarget : Bool := true
  deriving DecidableEq, Repr

/-- The uses of a buffer of the given kind. -/
def Usage.ofKind : Kind → Usage
  | .storage => { storage := true, uniform := false }
  | .uniform => { storage := false, uniform := true }

/-- The largest number of bytes that can be counted. -/
def maxByteCount : Nat := UInt64.size - 1

/-- The most bytes of memory that there can be for a buffer. -/
def maxMemory : Nat := UInt64.size / 2 - 1

/-- The limits on the bytes of a buffer. -/
structure Limits where
  bufferSize : Nat := 268435456
  storageBinding : Nat := 134217728
  uniformBinding : Nat := 65536
  deriving DecidableEq, Repr

namespace Limits

/-- The limit for a buffer with the given uses. -/
def bound (limits : Limits) (usage : Usage) : Nat :=
  let bound := limits.bufferSize
  let bound := if usage.storage then min bound limits.storageBinding else bound
  if usage.uniform then min bound limits.uniformBinding else bound

/-- The bytes of a buffer with the given stride and capacity, which has at least one element. Counts
that are too large stop at the largest one. -/
def byteCount (stride capacity : Nat) : Nat := min (stride * max capacity 1) maxByteCount

/-- The bytes of a buffer, if they are within the limits. -/
def check (limits : Limits) (role : Role) (usage : Usage) (stride capacity : Nat) :
    Except Error Nat :=
  let size := byteCount stride capacity
  let bound := limits.bound usage
  if bound < size then .error (.bufferTooLarge role size bound) else .ok size

end Limits

/-- A buffer of the device. -/
structure LimitedBuffer where
  role : Role
  usage : Usage
  /-- The bytes of an element. -/
  stride : Nat
  capacity : Nat
  /-- The bytes of the buffer. -/
  size : Nat
  /-- How often the memory of the buffer was replaced. -/
  generation : Nat := 0
  deriving DecidableEq, Repr

/-- What draws must agree on to share a pipeline. -/
structure PipelineKey where
  shader : Hash.Digest
  formats : List TextureFormat
  state : PassState
  layout : List (UInt32 × Access)
  deriving DecidableEq, Repr

/-- The storage buffers that a fragment shader has to be able to bind. -/
def requiredStorageBuffers : Nat := 4

/-- The device. -/
structure Limited where
  limits : Limits := {}
  features : Features := .all
  buffers : Table Nat LimitedBuffer := .empty
  /-- The render targets that are registered. -/
  targets : List TargetId := []
  /-- The pipelines built so far, first one first. -/
  pipelines : List PipelineKey := []
  /-- The number of the next handle. -/
  nextId : Nat := 1
  /-- The number of the next registration of a target. -/
  nextRegistration : Nat := 1

/-- The bytes of an element of a buffer: those of a uniform buffer are padded to a multiple of
sixteen. -/
def paddedStride (kind : Kind) (stride : Nat) : Nat :=
  match kind with
  | .storage => stride
  | .uniform => (stride + 15) / 16 * 16

/-- What draws to the given targets must agree on to share a pipeline. -/
def PipelineKey.ofDraw (draw : Draw) : PipelineKey where
  shader := draw.shader.hash
  formats := (draw.targets.filter fun target => !target.isDepth).map (·.format)
  state := draw.state
  layout := draw.buffers.map fun binding => (binding.binding, binding.access)

namespace Limited

/-- A device without buffers that can bind the given number of storage buffers in one stage. -/
def ofLimits (limits : Limits) (storageBuffersPerStage : Nat) : Limited where
  limits
  features := ⟨requiredStorageBuffers ≤ storageBuffersPerStage⟩

/-- Makes a handle that no buffer stands behind. -/
def issue (device : Limited) (role : Role) (fields : List Field) (kind : Kind) :
    Handle × Limited :=
  (⟨device.nextId, role, kind, fields⟩, { device with nextId := device.nextId + 1 })

/-- The buffer behind a handle. -/
def buffer? (device : Limited) (handle : Handle) : Option LimitedBuffer :=
  device.buffers.get? handle.id

/-- Whether there can be memory for all buffers. A call that leaves a buffer without memory does not
return. -/
def isBacked (device : Limited) : Bool :=
  device.buffers.entries.all fun entry => entry.2.size ≤ maxMemory

/-- Makes a buffer. A handle is used up even if the buffer has no bytes or too many. -/
def allocate (device : Limited) (role : Role) (fields : List Field) (kind : Kind) :
    Reply Limited Handle :=
  let (handle, device) := device.issue role fields kind
  let usage := Usage.ofKind kind
  let stride := paddedStride kind handle.stride
  let capacity := initialCapacity kind
  if stride = 0 then .fail (.allocationFailed role) device
  else
    match device.limits.check role usage stride capacity with
    | .error error => .fail error device
    | .ok size =>
      { result := .ok handle
        device := { device with
          buffers := device.buffers.insert handle.id { role, usage, stride, capacity, size } } }

/-- The line that is logged when a buffer grows. -/
def growthLine (buffer : LimitedBuffer) (elements : Nat) : LogLine where
  level := .debug
  text := "Resizing buffer " ++ buffer.role.name ++ " from " ++ Text.decimal buffer.capacity ++
    " to " ++ Text.decimal elements ++ " elements"

/-- Makes room for more elements in new memory. A buffer never shrinks. -/
def resize (device : Limited) (handle : Handle) (elements : Nat) : Reply Limited Unit :=
  match device.buffer? handle with
  | none => .fail (.unknownBuffer handle.role) device
  | some buffer =>
    if elements ≤ buffer.capacity then .done device
    else
      match device.limits.check buffer.role buffer.usage buffer.stride elements with
      | .error error => .fail error device
      | .ok size =>
        let grown := { buffer with
          capacity := elements, size, generation := buffer.generation + 1 }
        .done { device with buffers := device.buffers.insert handle.id grown }
          [growthLine buffer elements]

/-- Puts bytes into a buffer; what it holds is not kept track of. -/
def upload (device : Limited) (handle : Handle) (_source : Source) : Reply Limited Unit :=
  match device.buffer? handle with
  | none => .fail (.unknownBuffer handle.role) device
  | some _ => .done device

/-- Gives a buffer back; an unknown one is passed over. -/
def destroy (device : Limited) (handle : Handle) : Limited :=
  { device with buffers := device.buffers.erase handle.id }

/-- Sets every word of a buffer; what it holds is not kept track of. -/
def fill (device : Limited) (handle : Handle) (_value : Int32) : Reply Limited Unit :=
  match device.buffer? handle with
  | none => .fail (.unknownBuffer handle.role) device
  | some _ => .done device

/-- Registers a render target under a label. -/
def register (device : Limited) (label : Int) : TargetId × Limited :=
  let id : TargetId := ⟨label, device.nextRegistration⟩
  (id, { device with
    targets := id :: device.targets, nextRegistration := device.nextRegistration + 1 })

/-- Forgets a render target. -/
def unregister (device : Limited) (id : TargetId) : Limited :=
  { device with targets := device.targets.filter (· ≠ id) }

/-- The first of some render targets that is not registered. -/
def firstUnregistered? (device : Limited) (targets : List Target) : Option TargetId :=
  (targets.find? fun target => !device.targets.contains target.id).map (·.id)

/-- The first of some buffers that the device does not know. -/
def firstUnknown? (device : Limited) (handles : List Handle) : Option Handle :=
  handles.find? fun handle => (device.buffer? handle).isNone

/-- The line that is logged when a pipeline is built. -/
def pipelineLine (label : String) : LogLine where
  level := .debug
  text := "Compiling full-screen pipeline " ++ label

/-- Draws to those targets that hold colors; builds a pipeline for the first draw of its kind. -/
def draw (device : Limited) (draw : Draw) : Reply Limited Unit :=
  match device.firstUnregistered? (draw.targets.filter fun target => !target.isDepth) with
  | some id => .fail (.unknownTarget id) device
  | none =>
    match device.firstUnknown? (draw.buffers.map (·.buffer)) with
    | some handle => .fail (.unknownBuffer handle.role) device
    | none =>
      let key := PipelineKey.ofDraw draw
      if key ∈ device.pipelines then .done device
      else
        .done { device with pipelines := device.pipelines ++ [key] } [pipelineLine draw.label]

instance : Registry Limited where
  features device := device.features
  allocate device role fields kind _ := device.allocate role fields kind
  resize := resize
  upload := upload
  destroy := destroy
  capacity? device handle := (device.buffer? handle).map (·.capacity)

instance : CommandSink Limited where
  fill := fill
  draw := draw

end Limited

end Transparency.Device
