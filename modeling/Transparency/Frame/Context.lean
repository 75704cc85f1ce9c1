import Transparency.Buffer.Handle
import Transparency.Table
import Transparency.Target

/-! What the tasks of a frame tell each other. -/
namespace Transparency.Frame
open Buffer (Handle)

/-- A key of the frame context. -/
inductive Key
  /-- Some task wants to add fragments in this frame. -/
  | requestFlag
  /-- The counter was cleared in this frame. -/
  | clearedFlag
  /-- What the frame is drawn to. -/
  | targets
  | counterBuffer
  | indexBuffer
  | dataBuffer
  | depthBuffer
  | uniformBuffer
  /-- Any other entry, by name; it is none of the others whatever its name. -/
  | named (name : String)
  deriving DecidableEq, Repr

namespace Key

/-- The keys of the fragment buffers. -/
def fragmentBuffers : List Key :=
  [counterBuffer, indexBuffer, dataBuffer, depthBuffer, uniformBuffer]

/-- The keys with a meaning of their own. -/
def builtIn : List Key := [requestFlag, clearedFlag, targets] ++ fragmentBuffers

/-- The name of a key. -/
def name : Key → String
  | requestFlag => "OitRequestFlag"
  | clearedFlag => "OitClearedFlag"
  | targets => "AovBindings"
  | counterBuffer => "OitCounterBuffer"
  | indexBuffer => "OitIndexBuffer"
  | dataBuffer => "OitDataBuffer"
  | depthBuffer => "OitDepthBuffer"
  | uniformBuffer => "OitUniformBuffer"
  | named name => name

end Key

/-- A value of the frame context. -/
inductive Value
  | flag (value : Bool)
  | buffer (handle : Handle)
  | targets (bindings : List Target)
  deriving DecidableEq, Repr

/-- The entries that the tasks of a frame share. An entry of the wrong type counts as absent. -/
abbrev Context := Table Key Value

namespace Context

/-- Raises a flag. -/
def setFlag (context : Context) (key : Key) : Context := context.insert key (.flag true)

/-- Whether there is a flag at the key, whatever its value. -/
def hasFlag (context : Context) (key : Key) : Bool :=
  match context.get? key with
  | some (.flag _) => true
  | _ => false

/-- The context without the flag at the key; an entry of another type stays. -/
def dropFlag (context : Context) (key : Key) : Context :=
  if context.hasFlag key then context.erase key else context

/-- The buffer at a key. -/
def buffer? (context : Context) (key : Key) : Option Handle :=
  match context.get? key with
  | some (.buffer handle) => some handle
  | _ => none

/-- Puts a buffer at a key. -/
def setBuffer (context : Context) (key : Key) (handle : Handle) : Context :=
  context.insert key (.buffer handle)

/-- What the frame is drawn to. -/
def targets? (context : Context) : Option (List Target) :=
  match context.get? .targets with
  | some (.targets bindings) => some bindings
  | _ => none

/-- Sets what the frame is drawn to. -/
def setTargets (context : Context) (bindings : List Target) : Context :=
  context.insert .targets (.targets bindings)

end Context

end Transparency.Frame
