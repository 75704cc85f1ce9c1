import Transparency.Proofs.Scene.Executing
import Transparency.Proofs.Scene.Preparing

/-!
# The course of a frame

A frame of a scene with one task that resolves, from the session in which that task is prepared to the
last turn. What is proved of a frame is read off its course.
-/

namespace Transparency
open Device (Registry CommandSink LawfulDevice RegistryKeeps CommandsKeep)
open Transparency.Frame (Session Moment Event)

variable {σ : Type} [Registry σ] [CommandSink σ]

namespace Scene

/-- The course of a frame of a scene in which one task resolves. -/
structure Course (scene : Scene σ) (r : Task.Resolve) where
  /-- The session in which the task that resolves is prepared. -/
  opened : Session σ
  /-- The session that the first producer finds. -/
  start : Session σ
  /-- What the last turn adds. -/
  last : List (Moment σ)
  opened_alike : Session.Alike (scene.session.withContext
    (openContext scene.setups scene.producers scene.session.context)) opened
  prepared : scene.prepared.session = (r.prepare opened).2
  scheduled : scene.prepared.scheduled = scene.setups.map .setup ++
    (scene.producers.map (·.asked)).map .producer ++ [.resolve (r.prepare opened).1]
  start_alike : Session.Alike scene.prepared.session start
  setups : ∀ turn ∈ Turn.all (scene.setups.map .setup) scene.prepared.session, turn.made = []
  turns : scene.prepared.turns = Turn.all (scene.setups.map .setup) scene.prepared.session ++
    Turn.all ((scene.producers.map (·.asked)).map .producer) start ++
    [⟨.resolve (r.prepare opened).1, announce "execute" (.resolve (r.prepare opened).1)
      (Task.round executeTurn ((scene.producers.map (·.asked)).map .producer) start).2⟩]
  last_made : Turn.made ⟨.resolve (r.prepare opened).1,
    announce "execute" (.resolve (r.prepare opened).1)
      (Task.round executeTurn ((scene.producers.map (·.asked)).map .producer) start).2⟩ = last
  last_adds : (r.prepare opened).1.Adds
    (Task.round executeTurn ((scene.producers.map (·.asked)).map .producer) start).2
    scene.runFrame.session last
  history : scene.runFrame.session.history =
    (Task.round executeTurn ((scene.producers.map (·.asked)).map .producer) start).2.history ++ last
  session : scene.runFrame.session = (executeTurn (.resolve (r.prepare opened).1)
    (Task.round executeTurn ((scene.producers.map (·.asked)).map .producer) start).2).2
  resolves : scene.runFrame.resolves = [(r.prepare opened).1]

theorem Formed.course {scene : Scene σ} (h : scene.Formed) {r : Task.Resolve}
    (one : scene.resolves = [r]) : Nonempty (scene.Course r) := by
  obtain ⟨s, ha, hf, hs, ht⟩ := h.prepared one
  obtain ⟨t, u, hat, hu, hturns, hsetups, hrun, hresolves⟩ := (h.congr hf).executed ht
  subst hu
  obtain ⟨made, hhistory, hmade, hadds⟩ := Turn.resolve (r.prepare s).1
    (Task.round executeTurn ((scene.producers.map (·.asked)).map .producer) t).2
  rw [← hrun] at hhistory hadds
  exact ⟨⟨s, t, made, ha, hs, ht, hat, hsetups, hturns, hmade, hadds, hhistory, hrun, hresolves⟩⟩

namespace Course
variable {scene : Scene σ} {r : Task.Resolve} (course : scene.Course r)

/-- The producers of the frame, once they decided whether they have anything to add. -/
def producers (_ : scene.Course r) : List Task.Producer := scene.producers.map (·.asked)

/-- The session that the task that resolves finds in the last turn. -/
def finish : Session σ := (Task.round executeTurn (course.producers.map .producer) course.start).2

/-- What the producers add. -/
def added : List (Moment σ) := Turn.allMade (Turn.all (course.producers.map .producer) course.start)

theorem filled : course.start.Filled course.finish course.added :=
  Turn.filled_producers _ _

theorem allMade_turns : Turn.allMade scene.prepared.turns = course.added ++ course.last := by
  rw [course.turns, Turn.allMade_append, Turn.allMade_append]
  have nothing : Turn.allMade (Turn.all (scene.setups.map .setup) scene.prepared.session) = [] :=
    List.flatMap_eq_nil_iff.mpr course.setups
  rw [nothing, List.nil_append]
  simp only [Turn.allMade, List.flatMap_cons, List.flatMap_nil, List.append_nil, course.last_made]
  rfl

include course

theorem history_eq : scene.runFrame.session.history =
    scene.prepared.session.history ++ Turn.allMade scene.prepared.turns := by
  rw [course.history, course.allMade_turns, ← List.append_assoc, ← course.start_alike.history]
  exact congrArg (· ++ course.last) course.filled.history

/-- The task that resolves is prepared and executed under the same request flag. -/
theorem requestFlag_finish :
    course.finish.context.hasFlag .requestFlag = course.opened.context.hasFlag .requestFlag := by
  rw [course.filled.request, course.start_alike.context, course.prepared, (r.hasFlag_prepare _).1]

/-- In the last turn the request flag tells whether any producer has anything to add. -/
theorem requestFlag_finish_eq_wants (down : scene.session.context.hasFlag .requestFlag = false) :
    course.finish.context.hasFlag .requestFlag = scene.producers.any (·.wants) := by
  rw [course.requestFlag_finish, course.opened_alike.context]
  show (openContext scene.setups scene.producers scene.session.context).hasFlag .requestFlag = _
  rw [(hasFlag_openContext _ _ _).1, down, Bool.false_or]

theorem clearedFlag_start (down : scene.session.context.hasFlag .clearedFlag = false) :
    course.start.context.hasFlag .clearedFlag = false := by
  rw [course.start_alike.context, course.prepared]
  apply (r.hasFlag_prepare _).2
  rw [course.opened_alike.context]
  exact (hasFlag_openContext _ _ _).2.trans down

theorem device_executed {P : σ → Prop} (keep : CommandsKeep P) (hs : P scene.prepared.session.device) :
    P scene.runFrame.session.device := by
  have start : P course.start.device := by rw [course.start_alike.device]; exact hs
  rw [course.session]
  exact (r.prepare course.opened).1.device_execute _ keep (Turn.device_producers keep _ _ start)

theorem device_prepared {P : σ → Prop} (keeps : RegistryKeeps P) (hs : P scene.session.device) :
    P scene.prepared.session.device := by
  rw [course.prepared]
  apply (r.prepare_stocks _).device keeps
  rw [course.opened_alike.device]
  exact hs

/-- What no call changes of a device, a frame does not change. -/
theorem device {P : σ → Prop} (keeps : RegistryKeeps P) (keep : CommandsKeep P)
    (hs : P scene.session.device) : P scene.runFrame.session.device :=
  course.device_executed keep (course.device_prepared keeps hs)

theorem room [LawfulDevice σ] : scene.runFrame.session.room = scene.prepared.session.room :=
  course.device_executed (Device.commandsKeep_capacity? (Registry.capacity? _)) rfl

end Course

end Scene

end Transparency
