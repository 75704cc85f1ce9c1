import Transparency.Scene

/-!
# Scenes of new tasks

What a scene is made from, and what may be changed of its tasks from outside.
-/

namespace Transparency
open Fragment (Writer)
open Transparency.Frame (Session)

/-- What a new task is made from. -/
inductive Task.Recipe
  | setup (name : String) (targets : List Target)
  | producer (name : String) (settings : Settings) (writer : Writer)
  | resolve (name : String) (settings : Settings)

/-- The new task. -/
def Task.Recipe.make : Task.Recipe → Task
  | setup name targets => .setup { name, targets }
  | producer name settings writer => .producer { name, settings, writer }
  | resolve name settings => .resolve { name, settings }

/-- Whether the new task resolves fragments. -/
def Task.Recipe.isResolve : Task.Recipe → Bool
  | resolve _ _ => true
  | _ => false

/-- The task with another writer, if it has one: what it adds, and whether there is anything to add. -/
def Task.withWriter (writer : Writer) : Task → Task
  | producer task => producer { task with writer }
  | task => task

/-- The task with other targets, if it tells the frame what it is drawn to. -/
def Task.withTargets (targets : List Target) : Task → Task
  | setup task => setup { task with targets }
  | task => task

namespace Scene
variable {σ : Type}

/-- Changes a task from outside. -/
def edit (scene : Scene σ) (index : Nat) (change : Task → Task) : Scene σ :=
  scene.step index fun task session => (change task, session)

/-- Empties the frame context. -/
def clearContext (scene : Scene σ) : Scene σ :=
  { scene with session := scene.session.withContext .empty }

theorem step_cases (scene : Scene σ) (index : Nat) (act : Task → Session σ → Task × Session σ) :
    scene.step index act = scene ∨ ∃ task, scene.tasks[index]? = some task ∧
      scene.step index act = { scene with
        tasks := scene.tasks.set index (act task scene.session).1
        session := (act task scene.session).2 } := by
  unfold step
  split
  · exact Or.inl rfl
  · rename_i task ht
    exact Or.inr ⟨task, ht, rfl⟩

end Scene

end Transparency
