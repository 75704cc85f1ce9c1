import Transparency.Device.Basic
import Transparency.Table

/-! A device in memory that records what was done. -/
namespace Transparency.Device
open Buffer (Role Kind Field UsageHint Handle Source)

/-- What a buffer holds. -/
inductive Contents
  | bytes (content : List UInt8)
  /-- One word, over and over. -/
  | filled (value : Int32) (count : Nat)
  deriving DecidableEq, Repr

namespace Contents

/-- Nothing. -/
def none : Contents := .bytes []

/-- The bytes, one by one. -/
def toBytes : Contents → List UInt8
  | bytes content => content
  | filled value count => (List.replicate count (Bytes.ofInt32 value)).flatten

/-- The number of bytes. -/
def size : Contents → Nat
  | bytes content => content.length
  | filled _ count => 4 * count

/-- The first bytes, up to four words of a filled buffer. -/
def head (contents : Contents) : List UInt8 :=
  match contents with
  | bytes content => content.take 16
  | filled value count => (filled value (min count 4)).toBytes

/-- The last bytes, up to four words of a filled buffer. -/
def tail (contents : Contents) : List UInt8 :=
  match contents with
  | bytes content => content.drop (content.length - 16)
  | filled value count => (filled value (min count 4)).toBytes

end Contents

/-- A buffer of the device. -/
structure RecordedBuffer where
  role : Role
  capacity : Nat
  contents : Contents := .none
  deriving DecidableEq, Repr

/-- Something that took effect. -/
inductive Operation
  | allocated (role : Role) (kind : Kind) (capacity : Nat)
  | resized (role : Role) (before after : Nat)
  | uploaded (role : Role) (bytes : List UInt8)
  | destroyed (role : Role)
  | filled (role : Role) (value : Int32) (elements : Nat)
  | drawn (label : String) (shader : Hash.Digest) (state : PassState) (buffers : List Role)
      (targets : List Target)
  deriving DecidableEq, Repr

/-- The device: its buffers by the numbers of their handles, and the operations recorded, first one
first. -/
structure Recorder where
  features : Features := .all
  buffers : Table Nat RecordedBuffer := .empty
  operations : List Operation := []
  /-- Whether the device refuses to make buffers. -/
  refusing : Bool := false
  /-- The number of the next handle. -/
  nextId : Nat := 1

/-- The elements that a new buffer has room for. -/
def initialCapacity : Kind → Nat
  | .storage => 0
  | .uniform => 1

namespace Recorder

/-- Makes a handle that no buffer stands behind. -/
def issue (device : Recorder) (role : Role) (fields : List Field) (kind : Kind) :
    Handle × Recorder :=
  (⟨device.nextId, role, kind, fields⟩, { device with nextId := device.nextId + 1 })

/-- The buffer behind a handle. -/
def buffer? (device : Recorder) (handle : Handle) : Option RecordedBuffer :=
  device.buffers.get? handle.id

/-- Changes the buffer behind a handle and records why. -/
def update (device : Recorder) (handle : Handle) (buffer : RecordedBuffer)
    (operation : Operation) : Recorder :=
  { device with
    buffers := device.buffers.insert handle.id buffer
    operations := device.operations ++ [operation] }

/-- Makes a buffer, unless the device refuses. -/
def allocate (device : Recorder) (role : Role) (fields : List Field) (kind : Kind) :
    Reply Recorder Handle :=
  if device.refusing then .fail (.allocationFailed role) device
  else
    let (handle, device) := device.issue role fields kind
    let capacity := initialCapacity kind
    { result := .ok handle
      device := device.update handle { role, capacity } (.allocated role kind capacity) }

/-- Makes room for more elements; the contents are lost. A buffer never shrinks. -/
def resize (device : Recorder) (handle : Handle) (elements : Nat) : Reply Recorder Unit :=
  match device.buffer? handle with
  | none => .fail (.unknownBuffer handle.role) device
  | some buffer =>
    if elements ≤ buffer.capacity then .done device
    else
      .done (device.update handle { buffer with capacity := elements, contents := .none }
        (.resized buffer.role buffer.capacity elements))

/-- Replaces the contents of a buffer. -/
def upload (device : Recorder) (handle : Handle) (source : Source) : Reply Recorder Unit :=
  match device.buffer? handle with
  | none => .fail (.unknownBuffer handle.role) device
  | some buffer =>
    .done (device.update handle { buffer with contents := .bytes source.bytes }
      (.uploaded buffer.role source.bytes))

/-- Gives a buffer back; an unknown one is passed over. -/
def destroy (device : Recorder) (handle : Handle) : Recorder :=
  match device.buffer? handle with
  | none => device
  | some buffer =>
    { device with
      buffers := device.buffers.erase handle.id
      operations := device.operations ++ [.destroyed buffer.role] }

/-- Sets every word of a buffer. -/
def fill (device : Recorder) (handle : Handle) (value : Int32) : Reply Recorder Unit :=
  match device.buffer? handle with
  | none => .fail (.unknownBuffer handle.role) device
  | some buffer =>
    .done (device.update handle { buffer with contents := .filled value buffer.capacity }
      (.filled buffer.role value buffer.capacity))

/-- The first of some buffers that the device does not know. -/
def firstUnknown? (device : Recorder) (handles : List Handle) : Option Handle :=
  handles.find? fun handle => (device.buffer? handle).isNone

/-- Records a draw, if its buffers are known. -/
def draw (device : Recorder) (draw : Draw) : Reply Recorder Unit :=
  match device.firstUnknown? (draw.buffers.map (·.buffer)) with
  | some handle => .fail (.unknownBuffer handle.role) device
  | none =>
    .done { device with
      operations := device.operations ++ [.drawn draw.label draw.shader.hash draw.state
        (draw.buffers.map (·.buffer.role)) draw.targets] }

/-- The device without its record. -/
def withoutOperations (device : Recorder) : Recorder := { device with operations := [] }

instance : Registry Recorder where
  features device := device.features
  allocate device role fields kind _ := device.allocate role fields kind
  resize := resize
  upload := upload
  destroy := destroy
  capacity? device handle := (device.buffer? handle).map (·.capacity)

instance : CommandSink Recorder where
  fill := fill
  draw := draw

end Recorder

end Transparency.Device
