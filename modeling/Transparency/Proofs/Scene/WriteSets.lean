import Transparency.Device.Recorder
import Transparency.Proofs.Scene.Rounds
import Transparency.Proofs.Task.Entries

/-!
# What tasks write

Each call on a task changes few entries of the frame context, whatever is in it and whatever the device does.
No call of any task changes an entry that is not one of the frame's own.
-/

namespace Transparency
open Device (Registry CommandSink Recorder)
open Transparency.Frame (Session Context Key)

variable {σ : Type}

/-! ## Contexts that agree but for some entries -/

namespace Frame.Context
variable {keys keys' : List Key} {c c' c'' : Context}

/-- Only the entries of some keys may have changed. -/
def AgreeBut (keys : List Key) (before after : Context) : Prop :=
  ∀ k, k ∉ keys → after.get? k = before.get? k

theorem AgreeBut.refl (keys : List Key) (c : Context) : AgreeBut keys c c := fun _ _ => rfl

theorem AgreeBut.trans (h : AgreeBut keys c c') (h' : AgreeBut keys c' c'') : AgreeBut keys c c'' :=
  fun k other => (h' k other).trans (h k other)

theorem AgreeBut.mono (h : AgreeBut keys c c') (sub : keys ⊆ keys') : AgreeBut keys' c c' :=
  fun k other => h k fun hk => other (sub hk)

end Frame.Context

namespace Task
open Transparency.Frame.Context (AgreeBut)

theorem Setup.agreeBut_prepare (task : Setup) (c : Context) : AgreeBut [.targets] c (task.prepare c) :=
  fun _ other => task.get?_prepare c (by simpa using other)

theorem Producer.agreeBut_prepare (p : Producer) (c : Context) : AgreeBut [.requestFlag] c (p.prepare c).2 :=
  fun _ other => p.get?_prepare c (by simpa using other)

theorem Producer.agreeBut_execute [CommandSink σ] (p : Producer) (s : Session σ) :
    AgreeBut [.clearedFlag] s.context (p.execute s).2.context :=
  fun _ other => p.get?_execute s (by simpa using other)

theorem Resolve.agreeBut_prepare [Registry σ] (r : Resolve) (s : Session σ) :
    AgreeBut (.clearedFlag :: Key.fragmentBuffers) s.context (r.prepare s).2.context := by
  intro k other
  rw [List.mem_cons, not_or] at other
  exact r.get?_prepare s other.1 other.2

theorem Resolve.agreeBut_execute [CommandSink σ] (r : Resolve) (s : Session σ) :
    AgreeBut [.requestFlag, .clearedFlag] s.context (r.execute s).context := by
  intro k other
  rw [r.get?_execute_eq, if_neg fun h => other h.2.1]

variable {task : Task} {s : Session σ}

theorem agreeBut_prepare [Registry σ] (known : task.kind.2 = false) :
    AgreeBut Key.builtIn s.context (task.prepare s).2.context := by
  cases task with
  | setup task => exact (task.agreeBut_prepare s.context).mono (by decide)
  | producer p => exact (p.agreeBut_prepare s.context).mono (by decide)
  | resolve r => exact (r.agreeBut_prepare s).mono (by decide)
  | probe p => cases known

theorem agreeBut_execute [CommandSink σ] (known : task.kind.2 = false) :
    AgreeBut Key.builtIn s.context (task.execute s).2.context := by
  cases task with
  | setup task => exact .refl _ _
  | producer p => exact (p.agreeBut_execute s).mono (by decide)
  | resolve r => exact (r.agreeBut_execute s).mono (by decide)
  | probe p => cases known

end Task

/-! ## Calls in any order -/

namespace Scene
open Transparency.Frame.Context (AgreeBut)

/-- A call on a task. -/
inductive Turn
  | prepare (index : Nat)
  | execute (index : Nat)

/-- The scene after a call. -/
def turn [Registry σ] [CommandSink σ] (scene : Scene σ) : Turn → Scene σ
  | .prepare index => scene.prepareTask index
  | .execute index => scene.executeTask index

variable {scene : Scene σ}

/-- No task is a probe. -/
def Known (scene : Scene σ) : Prop := ∀ task ∈ scene.tasks, task.kind.2 = false

theorem Known.step {act : Task → Session σ → Task × Session σ} (known : scene.Known)
    (kept : ∀ task s, (act task s).1.kind = task.kind) (index : Nat) : (scene.step index act).Known := by
  intro task ht
  have hk : task.kind ∈ (scene.step index act).tasks.map Task.kind := List.mem_map_of_mem ht
  rw [kinds_step kept] at hk
  obtain ⟨old, ho, same⟩ := List.mem_map.mp hk
  rw [← same]
  exact known old ho

theorem agreeBut_step {act : Task → Session σ → Task × Session σ} (known : scene.Known)
    (agree : ∀ {task s}, task.kind.2 = false → AgreeBut Key.builtIn s.context (act task s).2.context)
    (index : Nat) : AgreeBut Key.builtIn scene.session.context (scene.step index act).session.context := by
  rcases scene.step_cases index act with he | ⟨task, ht, he⟩
  · rw [he]
    exact .refl _ _
  · rw [he]
    exact agree (known task (List.mem_of_getElem? ht))

variable [Registry σ] [CommandSink σ]

theorem Known.turn (known : scene.Known) (turn : Turn) :
    (scene.turn turn).Known ∧
      AgreeBut Key.builtIn scene.session.context (scene.turn turn).session.context := by
  cases turn with
  | prepare index =>
      exact ⟨known.step Task.kind_prepare index, agreeBut_step known Task.agreeBut_prepare index⟩
  | execute index =>
      exact ⟨known.step Task.kind_execute index, agreeBut_step known Task.agreeBut_execute index⟩

theorem Known.foldl_turn (known : scene.Known) (turns : List Turn) :
    AgreeBut Key.builtIn scene.session.context (turns.foldl Scene.turn scene).session.context := by
  induction turns generalizing scene with
  | nil => exact .refl _ _
  | cons turn turns ih =>
      obtain ⟨after, agree⟩ := known.turn turn
      exact agree.trans (ih after)

/-- Whatever the tasks, the frame context and the device are like: what tells the frame its targets sets
that entry; a task that adds fragments may set the request flag when it is prepared, and the cleared flag when
it is executed. The task that resolves puts in all buffers of its bundle or none when it is prepared, and it only
takes the cleared flag down besides; being executed, it takes down the flags of the frame, if one asks for the
buffers. What is no flag stays under their keys. So calls in any order leave all other entries alone. -/
theorem write_sets (scene : Scene σ) (known : ∀ p, Task.probe p ∉ scene.tasks) (turns : List Turn) :
    (∀ (task : Task.Setup) (c : Context), AgreeBut [.targets] c (task.prepare c)) ∧
    (∀ (p : Task.Producer) (c : Context), AgreeBut [.requestFlag] c (p.prepare c).2) ∧
    (∀ (p : Task.Producer) (s : Session σ), AgreeBut [.clearedFlag] s.context (p.execute s).2.context) ∧
    (∀ (r : Task.Resolve) (s : Session σ),
      AgreeBut (.clearedFlag :: Key.fragmentBuffers) s.context (r.prepare s).2.context ∧
      (AgreeBut [.clearedFlag] s.context (r.prepare s).2.context ∨
        ∃ b, (r.prepare s).1.bundle.buffers = some b ∧
          ∀ k h, (k, h) ∈ b.entries → (r.prepare s).2.context.get? k = some (.buffer h)) ∧
      (r.prepare s).2.context.get? .clearedFlag =
        if r.isNeeded s.context = true ∧ s.context.hasFlag .clearedFlag = true then none
        else s.context.get? .clearedFlag) ∧
    (∀ (r : Task.Resolve) (s : Session σ) (k : Key), (r.execute s).context.get? k =
      if s.context.hasFlag .requestFlag = true ∧ k ∈ [Key.requestFlag, .clearedFlag] ∧
        s.context.hasFlag k = true then none
      else s.context.get? k) ∧
    ∀ name, (turns.foldl turn scene).session.context.get? (.named name) =
      scene.session.context.get? (.named name) := by
  refine ⟨Task.Setup.agreeBut_prepare, Task.Producer.agreeBut_prepare, Task.Producer.agreeBut_execute,
    fun r s => ⟨r.agreeBut_prepare s, ?_, r.get?_prepare_clearedFlag s⟩, fun r s => r.get?_execute_eq s,
    fun name => ?_⟩
  · rcases r.prepare_entries s with untouched | published
    · exact Or.inl fun k other => untouched k (by simpa using other)
    · exact Or.inr published
  · have tasks : scene.Known := by
      intro task ht
      cases task with
      | probe p => exact absurd ht (known p)
      | _ => rfl
    exact tasks.foldl_turn turns (.named name) (by simp [Key.builtIn, Key.fragmentBuffers])

/-- A frame whose flags are none, with an entry that only has the name of one, on a device that makes no
buffers. -/
def strangeScene : Scene Recorder where
  tasks := [.setup {}, .producer { name := "glass", writer := { write := fun _ => .done (.ok ()) } },
    .resolve { name := "resolve" }]
  session :=
    { device := { refusing := true }
      context := ((Table.empty.insert (.named "OitRequestFlag") (.flag false)).insert .requestFlag
        (.targets [])).insert .clearedFlag (.targets []) }

/-- The frame is not resolved before the flag asks for it; then the buffers cannot be made. -/
theorem write_sets_of_strangeScene :
    let turns : List Turn := [.execute 2, .prepare 0, .prepare 1, .prepare 2, .execute 1, .execute 2]
    let after := (turns.foldl turn strangeScene).session.context
    (∀ p, Task.probe p ∉ strangeScene.tasks) ∧
      (strangeScene.turn (.execute 2)).session.context.get? .requestFlag = some (.targets []) ∧
      after.get? (.named "OitRequestFlag") = some (.flag false) ∧ after.get? .requestFlag = none ∧
      after.get? .clearedFlag = some (.targets []) := by
  intro turns after
  have known : ∀ p, Task.probe p ∉ strangeScene.tasks := by simp [strangeScene]
  obtain ⟨-, -, -, -, execute, named⟩ := write_sets strangeScene known turns
  exact ⟨known, (execute { name := "resolve" } strangeScene.session .requestFlag).trans rfl,
    named "OitRequestFlag", rfl, rfl⟩

end Scene

end Transparency
