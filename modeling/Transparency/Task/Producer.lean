import Transparency.Fragment.Writer
import Transparency.Frame.Protocol
import Transparency.Settings.Basic
import Transparency.Text.Quoted

/-! Tasks that add fragments. -/
namespace Transparency.Task
open Device (CommandSink)
open Fragment (Writer Buffers)
open Transparency.Frame (Context Session)

/-- A task that adds the fragments of a writer. -/
structure Producer where
  name : String
  settings : Settings := {}
  writer : Writer
  /-- Whether the task asked for the buffers when it was last prepared. -/
  requested : Bool := false
  /-- How often the writer was called. -/
  writes : Nat := 0

namespace Producer
variable {σ : Type}

/-- The task as it is shown to a developer. -/
def debugText (task : Producer) : String :=
  "OitRenderTask \x7b name: " ++ Text.quoted task.name ++ ", settings: " ++
    task.settings.debugText ++ ", requested: " ++ Settings.flagText task.requested ++ ", .. \x7d"

/-- Whether the task would ask for the buffers now. -/
def wants (task : Producer) : Bool := task.settings.enabled && task.writer.hasWork

/-- Asks for the buffers, if there is anything to add. -/
def prepare (task : Producer) (context : Context) : Producer × Context :=
  ({ task with requested := task.wants }, if task.wants then context.request else context)

/-- Calls the writer, once the counter is cleared. -/
def callWriter [CommandSink σ] (task : Producer) (buffers : Buffers) (session : Session σ) :
    Producer × Session σ :=
  let (result, session) :=
    (task.writer.write buffers).run (session.note (.wrote task.name buffers))
  ({ task with writes := task.writes + 1 },
    match result with
    | .ok () => session
    | .error error => session.fail task.name error)

/-- Adds the fragments, if the task asked for the buffers. The first task of a frame to do so clears
the counter. -/
def execute [CommandSink σ] (task : Producer) (session : Session σ) : Producer × Session σ :=
  if !task.requested then (task, session.report .trace (task.name ++ ": nothing to write"))
  else
    match Buffers.ofContext? session.context with
    | none => (task, session.fail task.name (.missingBuffers task.name))
    | some buffers =>
      match session.clearCounter with
      | (.error error, session) => (task, session.fail task.name error)
      | (.ok (), session) => task.callWriter buffers session

end Producer

end Transparency.Task
