import Transparency.Graph.Basic
import Transparency.Task.Basic

/-! Tasks in a graph, run frame by frame. -/
namespace Transparency
open Device (Registry CommandSink)
open Transparency.Frame (Session)
open Transparency.Graph (DirtyBits)

/-- The tasks by number, the graph that orders their numbers, and what they act on. A task may stand
in the graph more than once. -/
structure Scene (σ : Type) where
  tasks : List Task := []
  graph : Graph Nat := {}
  session : Session σ

namespace Scene
variable {σ : Type}

/-- Adds a task to the graph. -/
def schedule (scene : Scene σ) (index : Nat) : Scene σ :=
  match scene.tasks[index]? with
  | none => scene
  | some task => { scene with graph := scene.graph.add index task.stage }

/-- The tasks of the graph, in order. -/
def scheduled (scene : Scene σ) : List Task :=
  scene.graph.tasks.filterMap fun index => scene.tasks[index]?

/-- Lets a step act on a task. -/
def step (scene : Scene σ) (index : Nat) (act : Task → Session σ → Task × Session σ) : Scene σ :=
  match scene.tasks[index]? with
  | none => scene
  | some task =>
    let (task, session) := act task scene.session
    { scene with tasks := scene.tasks.set index task, session }

/-- Prepares one task. -/
def prepareTask [Registry σ] (scene : Scene σ) (index : Nat) : Scene σ :=
  scene.step index Task.prepare

/-- Executes one task. -/
def executeTask [CommandSink σ] (scene : Scene σ) (index : Nat) : Scene σ :=
  scene.step index Task.execute

/-- Tells one task what changed. -/
def syncTask (scene : Scene σ) (index : Nat) (dirty : DirtyBits) : DirtyBits × Scene σ :=
  match scene.tasks[index]? with
  | none => (dirty, scene)
  | some task =>
    let (dirty, session) := task.sync dirty scene.session
    (dirty, { scene with session })

/-- Logs that a part of the frame begins for a task. -/
def announce (verb : String) (task : Task) (session : Session σ) : Session σ :=
  session.report .trace (verb ++ " " ++ task.name ++ " (" ++ task.stage.name ++ ")")

/-- Tells all tasks of the graph what changed. -/
def sync (scene : Scene σ) : Scene σ :=
  let (graph, synced) :=
    scene.graph.sync (fun index dirty scene => Scene.syncTask scene index dirty) scene
  { synced with graph }

/-- Prepares all tasks of the graph, in order. -/
def prepare [Registry σ] (scene : Scene σ) : Scene σ :=
  scene.graph.forEach (fun index scene =>
    Scene.step scene index fun task session => task.prepare (announce "prepare" task session)) scene

/-- Executes all tasks of the graph, in order. -/
def execute [CommandSink σ] (scene : Scene σ) : Scene σ :=
  scene.graph.forEach (fun index scene =>
    Scene.step scene index fun task session => task.execute (announce "execute" task session)) scene

/-- Runs a frame: all tasks are told what changed, then prepared, then executed. -/
def runFrame [Registry σ] [CommandSink σ] (scene : Scene σ) : Scene σ := scene.sync.prepare.execute

end Scene

end Transparency
