import Transparency.Frame.Session
import Transparency.Graph.Stage

/-! Tasks that record when they are called, and edit the frame context. -/
namespace Transparency.Task
open Transparency.Frame (Key Context Session Phase)
open Transparency.Graph (Stage DirtyBits)

/-- An edit of the frame context. -/
inductive Edit
  | set (key : Key)
  | take (key : Key)
  | remove (key : Key)
  | clear
  deriving DecidableEq, Repr

/-- Edits a context. -/
def Edit.apply (context : Context) : Edit → Context
  | set key => context.setFlag key
  | take key => context.dropFlag key
  | remove key => context.erase key
  | clear => .empty

/-- The task. -/
structure Probe where
  name : String
  stage : Stage
  onPrepare : List Edit := []
  onExecute : List Edit := []
  /-- What is left of the dirty bits after the task looked at them; without it the task does not
  look. -/
  onSync : Option (DirtyBits → DirtyBits) := none

namespace Probe
variable {σ : Type}

/-- Records a call and edits the context. -/
def call (task : Probe) (phase : Phase) (edits : List Edit) (session : Session σ) : Session σ :=
  (session.note (.probed phase task.name)).withContext (edits.foldl Edit.apply session.context)

/-- Looks at what changed; returns what is left of it. -/
def sync (task : Probe) (dirty : DirtyBits) (session : Session σ) : DirtyBits × Session σ :=
  match task.onSync with
  | none => (.none, session)
  | some keep => (keep dirty, session.note (.synced task.name dirty))

end Probe

end Transparency.Task
