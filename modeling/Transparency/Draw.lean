import Transparency.Buffer.Handle
import Transparency.PassState
import Transparency.Shader.Program
import Transparency.Target

/-! Drawing over the whole screen. -/
namespace Transparency

/-- A draw over the whole screen: its program and state, the buffers that it binds, and what it draws
to. -/
structure Draw where
  label : String
  shader : Shader.Program
  state : PassState
  buffers : List Buffer.Binding
  targets : List Target
  deriving DecidableEq, Repr

end Transparency
