import Transparency.Task.Probe
import Transparency.Task.Producer
import Transparency.Task.Resolve
import Transparency.Task.Setup

/-! The tasks of a frame. -/
namespace Transparency
open Device (Registry CommandSink)
open Transparency.Frame (Session)
open Transparency.Graph (Stage DirtyBits)

/-- A task of a frame. -/
inductive Task
  | setup (task : Task.Setup)
  | producer (task : Task.Producer)
  | resolve (task : Task.Resolve)
  | probe (task : Task.Probe)

namespace Task
variable {σ : Type}

/-- The name of the task. -/
def name : Task → String
  | setup task => task.name
  | producer task => task.name
  | resolve task => task.name
  | probe task => task.name

/-- The stage of the task. -/
def stage : Task → Stage
  | setup _ => .setup
  | producer _ => .transparent
  | resolve _ => .resolve
  | probe task => task.stage

/-- Tells the task what changed; returns what is left of it. Only probes look. -/
def sync (task : Task) (dirty : DirtyBits) (session : Session σ) : DirtyBits × Session σ :=
  match task with
  | probe task => task.sync dirty session
  | _ => (.none, session)

/-- Makes the task ready for the frame. -/
def prepare [Registry σ] (task : Task) (session : Session σ) : Task × Session σ :=
  match task with
  | setup task => (setup task, session.withContext (task.prepare session.context))
  | producer task =>
    let (task, context) := task.prepare session.context
    (producer task, session.withContext context)
  | resolve task =>
    let (task, session) := task.prepare session
    (resolve task, session)
  | probe task => (probe task, task.call .prepare task.onPrepare session)

/-- Lets the task do its part of the frame. -/
def execute [CommandSink σ] (task : Task) (session : Session σ) : Task × Session σ :=
  match task with
  | setup task => (setup task, session)
  | producer task =>
    let (task, session) := task.execute session
    (producer task, session)
  | resolve task => (resolve task, task.execute session)
  | probe task => (probe task, task.call .execute task.onExecute session)

end Task

end Transparency
