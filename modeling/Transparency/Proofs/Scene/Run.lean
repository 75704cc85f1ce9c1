import Transparency.Proofs.Scene.FrameSafety

/-!
# Runs of many frames

Frames of one graph on one device, and what may happen between them. No flag is up where a frame begins,
so every frame is safe.
-/

namespace Transparency
open Device (Registry CommandSink Recorder Faults Faulty FaultPlan)
open Fragment (Bundle Writer)
open Transparency.Frame (Session)
open Transparency.Graph (addAll)

variable {σ : Type}

/-- The task, and the session, when the task gave its buffers back. -/
def Task.release [Registry σ] (task : Task) (s : Session σ) : Task × Session σ :=
  match task with
  | resolve task => (resolve (task.release s).1, (task.release s).2)
  | task => (task, s)

theorem Task.kind_release [Registry σ] (task : Task) (s : Session σ) :
    (task.release s).1.kind = task.kind := by
  cases task <;> rfl

theorem Task.release_context [Registry σ] (task : Task) (s : Session σ) :
    (task.release s).2.context = s.context := by
  cases task with
  | resolve r => exact r.bundle.release_context s
  | _ => rfl

namespace Scene

/-! ## Scenes of new tasks -/

/-- New tasks, all added to a graph in order. -/
def compose (recipes : List Task.Recipe) (d : σ) : Scene σ :=
  (List.range recipes.length).foldl schedule
    { tasks := recipes.map Task.Recipe.make, session := { device := d } }

theorem foldl_schedule (scene : Scene σ) (n : Nat) (h : n ≤ scene.tasks.length) :
    (List.range n).foldl schedule scene = { scene with
      graph := addAll scene.graph ((numbered (scene.tasks.map Task.kind)).take n) } := by
  induction n with
  | zero => rfl
  | succ n ih =>
      rw [List.range_succ, List.foldl_append, ih (Nat.le_of_succ_le h), List.foldl_cons, List.foldl_nil]
      have hn : scene.tasks[n]? = some scene.tasks[n] := List.getElem?_eq_getElem h
      have hnumbered : (numbered (scene.tasks.map Task.kind))[n]? = some (n, scene.tasks[n].stage) := by
        simp [numbered, Task.kind, hn]
      rw [schedule]
      simp only [hn]
      rw [List.take_add_one, hnumbered]
      simp [addAll]

theorem compose_eq (recipes : List Task.Recipe) (d : σ) : compose recipes d =
    { tasks := recipes.map Task.Recipe.make, session := { device := d }
      graph := addAll {} (numbered ((recipes.map Task.Recipe.make).map Task.kind)) } := by
  rw [compose, foldl_schedule _ _ (by simp), List.take_of_length_le (by simp [numbered])]

/-- A graph to which all tasks were added in order, none of them a probe. -/
theorem formed_of_numbered {scene : Scene σ}
    (graph : scene.graph = addAll {} (numbered (scene.tasks.map Task.kind)))
    (known : ∀ k ∈ scene.tasks.map Task.kind, k.2 = false) : scene.Formed :=
  ⟨by rw [graph, Graph.tasks_eq_staged, Graph.staged_addAll], known⟩

theorem formed_compose (recipes : List Task.Recipe) (d : σ) : (compose recipes d).Formed := by
  rw [compose_eq]
  refine formed_of_numbered rfl fun k hk => ?_
  obtain ⟨task, ht, rfl⟩ := List.mem_map.mp hk
  obtain ⟨recipe, -, rfl⟩ := List.mem_map.mp ht
  cases recipe <;> rfl

theorem resolves_compose (recipes : List Task.Recipe) (d : σ) :
    (compose recipes d).resolves.length = recipes.countP (·.isResolve) := by
  rw [compose_eq, length_resolves, List.count_eq_countP, List.countP_map, List.countP_map]
  apply List.countP_congr
  intro recipe _
  cases recipe <;> simp [Task.Recipe.make, Task.Recipe.isResolve, Task.kind, Task.stage]

/-! ## Frames, and what may happen between them -/

/-- A frame, or something that happens between frames. -/
inductive Move
  | frame
  /-- The frame context is emptied. -/
  | clear
  /-- A task gives its buffers back. -/
  | release (index : Nat)
  /-- From now on a task has this work, and adds it in this way. -/
  | employ (index : Nat) (writer : Writer)
  /-- From now on a task tells the frame to be drawn to these targets. -/
  | retarget (index : Nat) (targets : List Target)
  /-- From now on the device calls of this plan fail. -/
  | disturb (plan : FaultPlan)

/-- What holds of a scene between frames. -/
structure Between (scene : Scene (Faulty σ)) : Prop where
  formed : scene.Formed
  one : scene.resolves.length = 1
  request : scene.session.context.hasFlag .requestFlag = false
  cleared : scene.session.context.hasFlag .clearedFlag = false

theorem between_compose (recipes : List Task.Recipe) (d : σ)
    (one : recipes.countP (·.isResolve) = 1) :
    (compose recipes ({ device := d } : Faulty σ)).Between where
  formed := formed_compose _ _
  one := (resolves_compose _ _).trans one
  request := by rw [compose_eq]; rfl
  cleared := by rw [compose_eq]; rfl

variable {scene : Scene (Faulty σ)}

theorem Between.congr {scene' : Scene (Faulty σ)} (h : scene.Between) (ha : scene'.Alike scene)
    (hc : scene'.session.context = scene.session.context) : scene'.Between :=
  ⟨h.formed.congr ha, ha.one h.one, by rw [hc, h.request], by rw [hc, h.cleared]⟩

theorem alike_step {act : Task → Session (Faulty σ) → Task × Session (Faulty σ)}
    (kept : ∀ task s, (act task s).1.kind = task.kind) (index : Nat) :
    (scene.step index act).Alike scene := by
  refine ⟨?_, kinds_step kept scene index⟩
  rcases scene.step_cases index act with h | ⟨task, -, h⟩
  · rw [h]
  · rw [h]

theorem Between.step (h : scene.Between)
    {act : Task → Session (Faulty σ) → Task × Session (Faulty σ)}
    (kept : ∀ task s, (act task s).1.kind = task.kind)
    (same : ∀ task s, (act task s).2.context = s.context) (index : Nat) :
    (scene.step index act).Between := by
  apply h.congr (alike_step kept index)
  rcases scene.step_cases index act with he | ⟨task, -, he⟩
  · rw [he]
  · rw [he]; exact same task _

theorem Between.edit (h : scene.Between) {change : Task → Task}
    (kept : ∀ task, (change task).kind = task.kind) (index : Nat) :
    (scene.edit index change).Between := by
  show (scene.step index fun task s => (change task, s)).Between
  exact h.step (fun task _ => kept task) (fun _ _ => rfl) index

variable [Registry σ] [CommandSink σ]

/-- The scene after a move. -/
def play (scene : Scene (Faulty σ)) : Move → Scene (Faulty σ)
  | .frame => scene.runFrame
  | .clear => scene.clearContext
  | .release index => scene.step index Task.release
  | .employ index writer => scene.edit index (Task.withWriter writer)
  | .retarget index targets => scene.edit index (Task.withTargets targets)
  | .disturb plan => { scene with
      session := { scene.session with device := { scene.session.device with plan } } }

theorem Formed.runFrame (h : scene.Formed) : scene.runFrame.Alike scene := by
  have hsync := h.sync.1
  have hprepare := (h.congr hsync).prepare.1
  have hexecute := ((h.congr hsync).congr hprepare).execute.1
  exact (hexecute.trans hprepare).trans hsync

theorem Between.safeFrame (h : scene.Between) : scene.SafeFrame := by
  obtain ⟨r, one⟩ := List.length_eq_one_iff.mp h.one
  obtain ⟨course⟩ := h.formed.course one
  exact course.safe h.request h.cleared

theorem Between.play (h : scene.Between) (move : Move) : (scene.play move).Between := by
  cases move with
  | frame =>
      have ha := h.formed.runFrame
      exact ⟨h.formed.congr ha, ha.one h.one, h.safeFrame.flagsDown.1, h.safeFrame.flagsDown.2⟩
  | clear => exact ⟨h.formed.congr ⟨rfl, rfl⟩, h.one, rfl, rfl⟩
  | release index => exact h.step Task.kind_release Task.release_context index
  | employ index writer => exact h.edit (fun task => task.kind_withWriter writer) index
  | retarget index targets => exact h.edit (fun task => task.kind_withTargets targets) index
  | disturb plan => exact h.congr ⟨rfl, rfl⟩ rfl

theorem Between.foldl_play (h : scene.Between) (moves : List Move) :
    (moves.foldl Scene.play scene).Between := by
  induction moves generalizing scene with
  | nil => exact h
  | cons move moves ih => exact ih (h.play move)

/-! ## The buffers of the task that resolves, between frames -/

/-- Something holds of the buffers of the task that resolves, and of the session. -/
def Bundles {τ : Type} (P : Bundle → Session τ → Prop) (scene : Scene τ) : Prop :=
  ∀ r, Task.resolve r ∈ scene.tasks → P r.bundle scene.session

/-- What nothing changes that happens between frames. -/
structure Undisturbed (P : Bundle → Session (Faulty σ) → Prop) : Prop where
  clear {bundle : Bundle} {s : Session (Faulty σ)} : P bundle s → P bundle (s.withContext .empty)
  release {bundle : Bundle} {s : Session (Faulty σ)} :
    P bundle s → P (bundle.release s).1 (bundle.release s).2
  disturb {bundle : Bundle} {s : Session (Faulty σ)} (plan : FaultPlan) :
    P bundle s → P bundle { s with device := { s.device with plan } }

section
variable {P : Bundle → Session (Faulty σ) → Prop}

omit [Registry σ] [CommandSink σ] in
theorem Bundles.set {scene : Scene (Faulty σ)} (h : scene.Bundles P) {index : Nat} {task task' : Task}
    (ht : scene.tasks[index]? = some task) (same : ∀ r, task' = .resolve r → task = .resolve r)
    (r : Task.Resolve) (hr : Task.resolve r ∈ scene.tasks.set index task') :
    P r.bundle scene.session := by
  rcases List.mem_or_eq_of_mem_set hr with old | new
  · exact h r old
  · rw [same r new.symm] at ht
    exact h r (List.mem_of_getElem? ht)

omit [Registry σ] [CommandSink σ] in
theorem Bundles.edit (h : scene.Bundles P) {change : Task → Task}
    (same : ∀ task r, change task = .resolve r → task = .resolve r) (index : Nat) :
    (scene.edit index change).Bundles P := by
  rw [Scene.edit]
  rcases scene.step_cases index (fun task session => (change task, session)) with he | ⟨task, ht, he⟩
  · rw [he]; exact h
  · rw [he]; exact h.set ht (same task)

omit [CommandSink σ] in
theorem Between.bundles_release (h : scene.Between) (keep : Undisturbed P) (hs : scene.Bundles P)
    (index : Nat) : (scene.step index Task.release).Bundles P := by
  have between := h.step Task.kind_release Task.release_context index
  rcases scene.step_cases index Task.release with he | ⟨task, ht, he⟩
  · rw [he]; exact hs
  · rw [he] at between ⊢
    cases task with
    | setup t => exact hs.set ht fun _ => id
    | producer t => exact hs.set ht fun _ => id
    | probe t => exact hs.set ht fun _ => id
    | resolve t =>
        -- the task that was released is the only one that resolves
        intro r hr
        obtain ⟨only, one⟩ := List.length_eq_one_iff.mp between.one
        have released : (t.release scene.session).1 = only :=
          eq_of_mem_tasks one (List.mem_set (List.getElem?_eq_some_iff.mp ht).1 _)
        rw [eq_of_mem_tasks one hr, ← released]
        exact keep.release (hs t (List.mem_of_getElem? ht))

theorem Between.bundles_play (h : scene.Between) (keep : Undisturbed P)
    (frame : scene.Bundles P → scene.runFrame.Bundles P) (hs : scene.Bundles P) (move : Move) :
    (scene.play move).Bundles P := by
  cases move with
  | frame => exact frame hs
  | clear => exact fun r hr => keep.clear (hs r hr)
  | release index => exact h.bundles_release keep hs index
  | employ index writer =>
      refine hs.edit (fun task r he => ?_) index
      cases task <;> cases he
      rfl
  | retarget index targets =>
      refine hs.edit (fun task r he => ?_) index
      cases task <;> cases he
      rfl
  | disturb plan => exact fun r hr => keep.disturb plan (hs r hr)

/-- What every frame keeps, and all that happens between frames, holds after any moves. -/
theorem Between.bundles_foldl_play (h : scene.Between) (keep : Undisturbed P)
    (frame : ∀ scene : Scene (Faulty σ), scene.Between → scene.Bundles P → scene.runFrame.Bundles P)
    (hs : scene.Bundles P) (moves : List Move) : (moves.foldl Scene.play scene).Bundles P := by
  induction moves generalizing scene with
  | nil => exact hs
  | cons move moves ih => exact ih (h.play move) (h.bundles_play keep (frame scene h) hs move)

/-- A new task that resolves has no buffers. -/
theorem bundles_compose {τ : Type} {P : Bundle → Session τ → Prop} (recipes : List Task.Recipe) {d : τ}
    (hs : P {} { device := d }) : (compose recipes d).Bundles P := by
  rw [compose_eq]
  intro r hr
  obtain ⟨recipe, -, he⟩ := List.mem_map.mp hr
  cases recipe <;> cases he
  exact hs

end

/-! ## Every frame is safe -/

/-- Every frame of a graph in which one task resolves is safe, whatever its tasks are, whatever happened
before it, and whatever fails in it. -/
theorem safeFrame_of_moves (recipes : List Task.Recipe) (one : recipes.countP (·.isResolve) = 1) (d : σ)
    (moves : List Move) : (moves.foldl play (compose recipes { device := d })).SafeFrame :=
  ((between_compose recipes d one).foldl_play moves).safeFrame

theorem safeFrame_after_failed_fill :
    let recipes : List Task.Recipe := [.setup "targets" [], .resolve "resolve" {},
      .producer "glass" {} { write := fun _ => .done (.ok ()) }]
    let moves : List Move := [.disturb (Faults.plan { fill := [.counter] }), .frame, .clear]
    recipes.countP (·.isResolve) = 1 ∧
      (moves.foldl play (compose recipes { device := ({} : Recorder) })).SafeFrame :=
  ⟨rfl, safeFrame_of_moves _ rfl _ _⟩

end Scene

end Transparency
