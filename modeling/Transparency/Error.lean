import Transparency.Buffer.Role
import Transparency.Size
import Transparency.Target
import Transparency.Template.Basic

/-! What can go wrong, and how it is reported. -/
namespace Transparency
open Buffer (Role)

/-- Why a call failed. -/
inductive Error
  /-- A screen has a negative axis. -/
  | invalidSize (size : Size)
  /-- The buffers for a screen would have too many elements to count. -/
  | capacityOverflow (size : Size)
  /-- The buffers are needed but not there. -/
  | missingBuffers (user : String)
  /-- The resolve pass was never built. -/
  | missingPass (task : String)
  /-- The device lacks something. -/
  | unsupported (reason : String)
  /-- A handle to no buffer of the device. -/
  | unknownBuffer (role : Role)
  /-- A render target that the device does not know. -/
  | unknownTarget (id : TargetId)
  /-- The device has no buffer to give. -/
  | allocationFailed (role : Role)
  /-- A buffer would exceed a limit of the device. -/
  | bufferTooLarge (role : Role) (size limit : Nat)
  /-- A shader has no text. -/
  | template (failure : Template.Failure)
  deriving DecidableEq, Repr

namespace Error

/-- The name of the kind of error. -/
def name : Error → String
  | invalidSize _ => "InvalidScreenSize"
  | capacityOverflow _ => "CapacityOverflow"
  | missingBuffers _ => "MissingBuffers"
  | missingPass _ => "MissingRenderState"
  | unsupported _ => "UnsupportedBackend"
  | unknownBuffer _ => "UnknownBuffer"
  | unknownTarget _ => "UnknownRenderTarget"
  | allocationFailed _ => "AllocationFailed"
  | bufferTooLarge _ _ _ => "BufferTooLarge"
  | template _ => "ShaderTemplate"

/-- The message of an error. -/
def message : Error → String
  | invalidSize size => "Invalid screen size for OIT buffers: " ++ size.text
  | capacityOverflow size => "OIT buffer capacity overflows for screen size " ++ size.text
  | missingBuffers user => "No OIT buffers allocated but needed by " ++ user
  | missingPass task => "OIT resolve pass state missing for " ++ task
  | unsupported reason => "Unsupported backend for OIT: " ++ reason
  | unknownBuffer role => "Unknown buffer: " ++ role.debugText
  | unknownTarget id => "Unknown render target: " ++ Text.decimal id.label
  | allocationFailed role => "Buffer allocation failed: " ++ role.debugText
  | bufferTooLarge role size limit =>
    "Buffer " ++ role.debugText ++ " needs " ++ Text.decimal size ++ " bytes, device limit is " ++
      Text.decimal limit
  | template failure => "Shader template error: " ++ failure.message

end Error

end Transparency
