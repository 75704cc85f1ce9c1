import Transparency.Proofs.Scene.Rounds

/-!
# A frame that is prepared

The task that resolves is prepared last, on a context that tells it what the frame is drawn to, and
whether any task asked for the buffers.
-/

namespace Transparency
open Device (Registry)
open Transparency.Frame (Session Context)

variable {σ : Type}

/-- The task, once it decided for a frame whether it has anything to add. -/
def Task.Producer.asked (p : Task.Producer) : Task.Producer := { p with requested := p.wants }

namespace Scene

/-- A context after tasks told it what the frame is drawn to, and tasks asked for the buffers. -/
def openContext (ss : List Task.Setup) (ps : List Task.Producer) (c : Context) : Context :=
  ps.foldl (fun c p => if p.wants then c.request else c) (ss.foldl (fun c s => s.prepare c) c)

section
variable [Registry σ]

/-- The scene when all tasks are prepared for a frame, and none is executed. -/
def prepared (scene : Scene σ) : Scene σ := scene.sync.prepare

theorem round_setups (ss : List Task.Setup) (s : Session σ) :
    (Task.round prepareTurn (ss.map .setup) s).1 = ss.map .setup ∧
      Session.Alike (s.withContext (ss.foldl (fun c t => t.prepare c) s.context))
        (Task.round prepareTurn (ss.map .setup) s).2 := by
  induction ss generalizing s with
  | nil => exact ⟨rfl, .refl s⟩
  | cons t ss ih =>
      obtain ⟨htasks, hs⟩ := ih (prepareTurn (.setup t) s).2
      simp only [List.map_cons, Task.round, List.foldl_cons]
      refine ⟨by rw [htasks]; rfl, Session.Alike.trans ?_ hs⟩
      exact ⟨rfl, rfl, rfl⟩

theorem round_producers (ps : List Task.Producer) (s : Session σ) :
    (Task.round prepareTurn (ps.map .producer) s).1 = (ps.map (·.asked)).map .producer ∧
      Session.Alike (s.withContext (ps.foldl (fun c p => if p.wants then c.request else c) s.context))
        (Task.round prepareTurn (ps.map .producer) s).2 := by
  induction ps generalizing s with
  | nil => exact ⟨rfl, .refl s⟩
  | cons p ps ih =>
      obtain ⟨htasks, hs⟩ := ih (prepareTurn (.producer p) s).2
      simp only [List.map_cons, Task.round, List.foldl_cons]
      refine ⟨by rw [htasks]; rfl, Session.Alike.trans ?_ hs⟩
      exact ⟨rfl, rfl, rfl⟩

/-- When a frame is prepared, the task that resolves comes last, on the context that all others left. -/
theorem Formed.prepared {scene : Scene σ} (h : scene.Formed) {r : Task.Resolve}
    (one : scene.resolves = [r]) : ∃ s,
      Session.Alike (scene.session.withContext
        (openContext scene.setups scene.producers scene.session.context)) s ∧
      scene.prepared.Alike scene ∧ scene.prepared.session = (r.prepare s).2 ∧
      scene.prepared.scheduled = scene.setups.map .setup ++
        (scene.producers.map (·.asked)).map .producer ++ [.resolve (r.prepare s).1] := by
  obtain ⟨hsync, hsession, -, hscheduled⟩ := h.sync
  obtain ⟨hprepare, hs, ht⟩ := (h.congr hsync).prepare
  rw [hscheduled, h.scheduled_kinds, one, hsession, Task.round_append, Task.round_append] at hs ht
  obtain ⟨hss, hsetups⟩ := round_setups scene.setups scene.session
  obtain ⟨hps, hproducers⟩ := round_producers scene.producers
    (Task.round prepareTurn (scene.setups.map .setup) scene.session).2
  rw [hss, hps] at ht
  refine ⟨announce "prepare" (.resolve r) (Task.round prepareTurn (scene.producers.map .producer)
    (Task.round prepareTurn (scene.setups.map .setup) scene.session).2).2, ?_, hprepare.trans hsync, hs, ht⟩
  refine Session.Alike.trans ?_ (Session.alike_report _ _ _)
  refine Session.Alike.trans ?_ hproducers
  rw [hsetups.context]
  exact hsetups.withContext _

end

/-- It does not matter for the context who asks for the buffers, only whether anyone does. -/
theorem openContext_eq (ss : List Task.Setup) (ps : List Task.Producer) (c : Context) :
    openContext ss ps c =
      if ps.any (·.wants) then (openContext ss [] c).request else openContext ss [] c := by
  unfold openContext
  generalize ss.foldl (fun c s => s.prepare c) c = c
  rw [List.foldl_nil]
  induction ps generalizing c with
  | nil => rfl
  | cons p ps ih =>
      rw [List.foldl_cons, ih, List.any_cons]
      cases hw : p.wants with
      | false => rfl
      | true =>
          -- a second request changes nothing
          have again : c.request.request = c.request := Table.insert_insert _ _ _ _
          simp [again]

theorem hasFlag_openContext (ss : List Task.Setup) (ps : List Task.Producer) (c : Context) :
    (openContext ss ps c).hasFlag .requestFlag = (c.hasFlag .requestFlag || ps.any (·.wants)) ∧
      (openContext ss ps c).hasFlag .clearedFlag = c.hasFlag .clearedFlag := by
  have setups : ∀ k, k ≠ .targets →
      (ss.foldl (fun c s => s.prepare c) c).hasFlag k = c.hasFlag k := by
    intro k hk
    induction ss generalizing c with
    | nil => rfl
    | cons s ss ih => rw [List.foldl_cons, ih]; simp [Task.Setup.prepare, hk]
  unfold openContext
  rw [← setups .requestFlag (by decide), ← setups .clearedFlag (by decide)]
  generalize ss.foldl (fun c s => s.prepare c) c = c
  induction ps generalizing c with
  | nil => simp
  | cons p ps ih =>
      rw [List.foldl_cons, (ih _).1, (ih _).2]
      cases hw : p.wants <;> simp [hw, Context.request]

end Scene

end Transparency
