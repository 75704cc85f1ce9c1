import Transparency.Frame.Session

/-! The task that tells a frame what it is drawn to. -/
namespace Transparency.Task
open Transparency.Frame (Context)

/-- The task. -/
structure Setup where
  name : String := ""
  targets : List Target := []
  deriving DecidableEq, Repr

/-- Puts the targets into the frame context. -/
def Setup.prepare (task : Setup) (context : Context) : Context := context.setTargets task.targets

end Transparency.Task
