import Transparency.Proofs.Scene.Run

/-!
# Calls in any order

Tasks may be called one by one, in any order and as often as anyone likes, with whole frames and changes from
outside in between. What no single call changes holds all the time.
-/

namespace Transparency
open Device (Registry CommandSink LawfulRegistry LawfulDevice Faulty FaultPlan)
open Fragment (Writer)
open Transparency.Frame (Session Context)

variable {σ : Type}

namespace Scene

/-! ## What is done to a scene -/

/-- A call of a task, another frame context, or a move. -/
inductive Deed
  | prepare (index : Nat)
  | execute (index : Nat)
  /-- From now on the frame context is this one. -/
  | present (context : Context)
  | move (move : Move)

theorem alike_edit {scene : Scene (Faulty σ)} {change : Task → Task}
    (kept : ∀ task, (change task).kind = task.kind) (index : Nat) :
    (scene.edit index change).Alike scene :=
  show (scene.step index fun task s => (change task, s)).Alike scene from
    alike_step (fun task _ => kept task) index

variable [Registry σ] [CommandSink σ]

/-- The scene after a deed. -/
def act (scene : Scene (Faulty σ)) : Deed → Scene (Faulty σ)
  | .prepare index => scene.prepareTask index
  | .execute index => scene.executeTask index
  | .present context => { scene with session := scene.session.withContext context }
  | .move move => scene.play move

theorem Formed.act {scene : Scene (Faulty σ)} (h : scene.Formed) (deed : Deed) :
    (scene.act deed).Alike scene := by
  cases deed with
  | prepare index => exact alike_step Task.kind_prepare index
  | execute index => exact alike_step Task.kind_execute index
  | present context => exact ⟨rfl, rfl⟩
  | move move =>
      cases move with
      | frame => exact h.runFrame
      | clear => exact ⟨rfl, rfl⟩
      | release index => exact alike_step Task.kind_release index
      | employ index writer => exact alike_edit (Task.kind_withWriter · writer) index
      | retarget index targets => exact alike_edit (Task.kind_withTargets · targets) index
      | disturb plan => exact ⟨rfl, rfl⟩

/-- The tasks stay what they are, and where they are. -/
theorem Formed.foldl_act {scene : Scene (Faulty σ)} (h : scene.Formed) (deeds : List Deed) :
    (deeds.foldl Scene.act scene).Alike scene := by
  induction deeds generalizing scene with
  | nil => exact ⟨rfl, rfl⟩
  | cons deed deeds ih => exact (ih (h.congr (h.act deed))).trans (h.act deed)

/-! ## What holds all the time -/

/-- What no call of a task changes of a scene, and nothing that is done from outside. No probe may be in it, as a
probe may do anything. -/
structure Enduring (S : Scene (Faulty σ) → Prop) : Prop where
  known {scene : Scene (Faulty σ)} : S scene → ∀ p, Task.probe p ∉ scene.tasks
  /-- The graph and the log do not matter. -/
  congr {scene scene' : Scene (Faulty σ)} : S scene → scene'.tasks = scene.tasks →
    Session.Alike scene.session scene'.session → S scene'
  prepare {scene : Scene (Faulty σ)} (index : Nat) : S scene → S (scene.step index Task.prepare)
  execute {scene : Scene (Faulty σ)} (index : Nat) : S scene → S (scene.step index Task.execute)
  release {scene : Scene (Faulty σ)} (index : Nat) : S scene → S (scene.step index Task.release)
  employ {scene : Scene (Faulty σ)} (index : Nat) (writer : Writer) :
    S scene → S (scene.edit index (Task.withWriter writer))
  retarget {scene : Scene (Faulty σ)} (index : Nat) (targets : List Target) :
    S scene → S (scene.edit index (Task.withTargets targets))
  clear {scene : Scene (Faulty σ)} : S scene → S scene.clearContext
  disturb {scene : Scene (Faulty σ)} (plan : FaultPlan) : S scene → S { scene with
    session := { scene.session with device := { scene.session.device with plan } } }

namespace Enduring
variable {S : Scene (Faulty σ) → Prop} {scene : Scene (Faulty σ)}

/-- What the calls of one kind keep, a part of a frame keeps that makes them in order and announces each. -/
theorem round {act : Task → Session (Faulty σ) → Task × Session (Faulty σ)} (keep : Enduring S)
    (acts : ∀ {scene} (index : Nat), S scene → S (scene.step index act)) (verb : String) (h : S scene)
    (indices : List Nat) : S (indices.foldl
      (fun scene i => scene.step i fun task s => act task (announce verb task s)) scene) := by
  induction indices generalizing scene with
  | nil => exact h
  | cons i indices ih =>
      apply ih
      cases ht : scene.tasks[i]? with
      | none => simpa only [step, ht] using h
      | some task =>
          have announced : S { scene with session := announce verb task scene.session } :=
            keep.congr h rfl (Session.alike_report _ _ _)
          simpa only [step, ht] using acts i announced

theorem runFrame (keep : Enduring S) (h : S scene) : S scene.runFrame := by
  obtain ⟨hs, ht, -⟩ := sync_of_known (keep.known h)
  have synced : S scene.sync := keep.congr h ht (by rw [hs]; exact .refl _)
  exact keep.round keep.execute "execute" (keep.round keep.prepare "prepare" synced _) _

theorem play (keep : Enduring S) (h : S scene) (move : Move) : S (scene.play move) := by
  cases move with
  | frame => exact keep.runFrame h
  | clear => exact keep.clear h
  | release index => exact keep.release index h
  | employ index writer => exact keep.employ index writer h
  | retarget index targets => exact keep.retarget index targets h
  | disturb plan => exact keep.disturb plan h

/-- What endures holds after any deeds, if it holds in the contexts that are put in. -/
theorem foldl_act (keep : Enduring S) (h : S scene) (deeds : List Deed)
    (present : ∀ c, Deed.present c ∈ deeds → ∀ scene : Scene (Faulty σ), S scene →
      S { scene with session := scene.session.withContext c }) : S (deeds.foldl act scene) := by
  induction deeds generalizing scene with
  | nil => exact h
  | cons deed deeds ih =>
      refine ih ?_ fun c hc => present c (List.mem_cons_of_mem _ hc)
      cases deed with
      | prepare index => exact keep.prepare index h
      | execute index => exact keep.execute index h
      | present context => exact present context List.mem_cons_self _ h
      | move move => exact keep.play h move

end Enduring

/-! ## What holds of every task -/

/-- Something holds of every task, and something of the session. -/
structure Everywhere {τ : Type} (P : Task → Prop) (Q : Session τ → Prop) (scene : Scene τ) : Prop where
  tasks : ∀ task ∈ scene.tasks, P task
  session : Q scene.session

/-- What no call of a task changes, and nothing that is done from outside. No probe has it, as a probe may do
anything. -/
structure Lasting (P : Task → Prop) (Q : Session (Faulty σ) → Prop) : Prop where
  known (task : Task.Probe) : ¬P (.probe task)
  alike {s t : Session (Faulty σ)} : Session.Alike s t → Q s → Q t
  prepare {task : Task} {s : Session (Faulty σ)} :
    P task → Q s → P (task.prepare s).1 ∧ Q (task.prepare s).2
  execute {task : Task} {s : Session (Faulty σ)} :
    P task → Q s → P (task.execute s).1 ∧ Q (task.execute s).2
  release {task : Task} {s : Session (Faulty σ)} :
    P task → Q s → P (task.release s).1 ∧ Q (task.release s).2
  withWriter {task : Task} (writer : Writer) : P task → P (task.withWriter writer)
  withTargets {task : Task} (targets : List Target) : P task → P (task.withTargets targets)
  clear {s : Session (Faulty σ)} : Q s → Q (s.withContext .empty)
  disturb {s : Session (Faulty σ)} (plan : FaultPlan) :
    Q s → Q { s with device := { s.device with plan } }

namespace Everywhere
variable {P : Task → Prop} {Q : Session (Faulty σ) → Prop} {scene : Scene (Faulty σ)}

omit [Registry σ] [CommandSink σ] in
theorem step {act : Task → Session (Faulty σ) → Task × Session (Faulty σ)} (h : scene.Everywhere P Q)
    (keep : ∀ {task s}, P task → Q s → P (act task s).1 ∧ Q (act task s).2) (index : Nat) :
    (scene.step index act).Everywhere P Q := by
  rcases scene.step_cases index act with he | ⟨task, ht, he⟩
  · rw [he]; exact h
  · obtain ⟨hp, hq⟩ := keep (h.tasks task (List.mem_of_getElem? ht)) h.session
    rw [he]
    refine ⟨fun task' hmem => ?_, hq⟩
    rcases List.mem_or_eq_of_mem_set hmem with old | rfl
    · exact h.tasks task' old
    · exact hp

omit [Registry σ] [CommandSink σ] in
theorem edit {change : Task → Task} (h : scene.Everywhere P Q)
    (keep : ∀ {task}, P task → P (change task)) (index : Nat) :
    (scene.edit index change).Everywhere P Q :=
  show (scene.step index fun task s => (change task, s)).Everywhere P Q from
    h.step (fun hp hq => ⟨keep hp, hq⟩) index

theorem enduring (keep : Lasting P Q) : Enduring (σ := σ) (Everywhere P Q) where
  known h p hmem := keep.known p (h.tasks _ hmem)
  congr h ht ha := ⟨by rw [ht]; exact h.tasks, keep.alike ha h.session⟩
  prepare index h := h.step keep.prepare index
  execute index h := h.step keep.execute index
  release index h := h.step keep.release index
  employ index writer h := h.edit (keep.withWriter writer) index
  retarget index targets h := h.edit (keep.withTargets targets) index
  clear h := ⟨h.tasks, keep.clear h.session⟩
  disturb plan h := ⟨h.tasks, keep.disturb plan h.session⟩

/-- What lasts holds after any deeds, if it holds in the contexts that are put in. -/
theorem foldl_act (h : scene.Everywhere P Q) (keep : Lasting P Q) (deeds : List Deed)
    (present : ∀ c, Deed.present c ∈ deeds → ∀ s, Q s → Q (s.withContext c)) :
    (deeds.foldl act scene).Everywhere P Q :=
  (enduring keep).foldl_act h deeds fun c hc _ hs => ⟨hs.tasks, present c hc _ hs.session⟩

omit [Registry σ] [CommandSink σ] in
/-- What holds of all new tasks and of a new session holds of a scene of new tasks. -/
theorem compose {recipes : List Task.Recipe} {d : Faulty σ} (tasks : ∀ recipe ∈ recipes, P recipe.make)
    (session : Q { device := d }) : (compose recipes d).Everywhere P Q := by
  rw [compose_eq]
  refine ⟨fun task ht => ?_, session⟩
  obtain ⟨recipe, hr, rfl⟩ := List.mem_map.mp ht
  exact tasks recipe hr

end Everywhere

/-! ## Devices that were in use -/

/-- No call makes a device unsound. -/
theorem lasting_sound [LawfulDevice σ] :
    Lasting (σ := σ) (fun task => task.kind.2 = false) Session.Sound where
  known _ h := Bool.noConfusion h
  alike ha h := ha.sound h
  prepare {task s} hp hs := by
    refine ⟨by rw [Task.kind_prepare]; exact hp, ?_⟩
    cases task with
    | setup t => exact hs
    | producer p => exact hs
    | resolve r => exact (r.prepare_stocks s).sound hs
    | probe t => exact hs
  execute {task s} hp hs := by
    refine ⟨by rw [Task.kind_execute]; exact hp, ?_⟩
    cases task with
    | setup t => exact hs
    | producer p => exact p.device_execute s Device.commandsKeep_sound hs
    | resolve r => exact r.device_execute s Device.commandsKeep_sound hs
    | probe t => exact hs
  release {task s} hp hs := by
    refine ⟨by rw [Task.kind_release]; exact hp, ?_⟩
    cases task with
    | resolve r => exact (r.bundle.release_stocks s).sound hs
    | _ => exact hs
  withWriter {task} writer hp := by rw [Task.kind_withWriter]; exact hp
  withTargets {task} targets hp := by rw [Task.kind_withTargets]; exact hp
  clear hs := hs
  disturb _ hs := hs

omit [CommandSink σ] in
theorem everywhere_sound_compose [LawfulRegistry σ] (recipes : List Task.Recipe) {d : σ}
    (sound : LawfulRegistry.Sound d) : (compose recipes ({ device := d } : Faulty σ)).Everywhere
      (fun task => task.kind.2 = false) Session.Sound :=
  .compose (fun recipe _ => by cases recipe <;> rfl) sound

theorem sound_of_deeds [LawfulDevice σ] {d : σ} (sound : LawfulRegistry.Sound d)
    (recipes : List Task.Recipe) (deeds : List Deed) :
    LawfulRegistry.Sound (deeds.foldl act (compose recipes { device := d })).session.device.device :=
  ((everywhere_sound_compose recipes sound).foldl_act lasting_sound deeds fun _ _ _ hs => hs).session

end Scene

end Transparency
