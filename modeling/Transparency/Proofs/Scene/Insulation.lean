import Transparency.Proofs.Frame.Quiet
import Transparency.Proofs.Scene.Run
import Transparency.Proofs.Task.Entries
import Transparency.Proofs.Task.Unlogged

/-!
# What a frame owes to the tasks that add fragments

Where no call fails, it matters for the rest of a frame whether any task asks for the buffers, but not which
task does, how many do, in which order they act, and what their writers do.
-/

namespace Transparency
open Buffer (Role Handle)
open Device (Registry CommandSink CommandsKeep Recorder Operation Reply Faulty)
open Device.Faulty (Unfailing)
open Fragment (Buffers)
open Transparency.Frame (Session Context Moment Event)

variable {σ : Type}

/-! ## What is observed of a session -/

namespace Frame.Session
variable {s t : Session σ} {made : List (Moment σ)}

/-- How often the counter was cleared for a frame. -/
def clears (s : Session σ) : Nat := s.history.countP (·.event.isClear)

/-- The draws that resolved fragments. -/
def draws (s : Session σ) : List Draw := s.history.filterMap (·.event.resolvedDraw?)

/-- The context has the fragment buffers, and the counter among them is there. -/
def clearable [Registry σ] (s : Session σ) : Bool :=
  (Buffers.ofContext? s.context).any fun b => (s.room b.counter).isSome

/-- The producers cleared the counter once if the flag that tells so was raised by them. -/
theorem Filled.clears (h : s.Filled t made) : t.clears = s.clears +
    (!s.context.hasFlag .clearedFlag && t.context.hasFlag .clearedFlag).toNat := by
  simp only [Session.clears, h.history, List.countP_append]
  have none_of {ms : List (Moment σ)} (quiet : ∀ m ∈ ms, m.event.isClear = false) :
      ms.countP (·.event.isClear) = 0 := List.countP_eq_zero.mpr fun m hm => by simp [quiet m hm]
  cases before : s.context.hasFlag .clearedFlag with
  | true => rw [none_of (h.cleared before).2]; rfl
  | false =>
      rcases h.uncleared before with ⟨down, rfl⟩ | ⟨up, counter, d, rest, rfl, quiet⟩
      · simp [down]
      · rw [List.countP_cons, List.countP_cons, none_of quiet, up]
        rfl

theorem Filled.draws (h : s.Filled t made) : t.draws = s.draws := by
  have quiet : made.filterMap (·.event.resolvedDraw?) = [] := List.filterMap_eq_nil_iff.mpr fun m hm =>
    Event.resolvedDraw?_of_not_isResolve (h.quiet m hm).2
  simp only [Session.draws, h.history, List.filterMap_append, quiet, List.append_nil]

end Frame.Session

/-! ## What producers leave in the context -/

namespace Frame.Context
variable (c : Context)

/-- The context in which the counter counts as cleared, if it is cleared now. -/
def clearedIf (now : Bool) : Context :=
  if now && !c.hasFlag .clearedFlag then c.setFlag .clearedFlag else c

theorem clearedIf_clearedIf (first later : Bool) :
    (c.clearedIf first).clearedIf later = c.clearedIf (first || later) := by
  cases up : c.hasFlag .clearedFlag <;> cases first <;> cases later <;> simp [clearedIf, up]

end Frame.Context

namespace Task.Producer
variable {s : Session (Faulty Recorder)}

/-- Where no call fails, a producer clears the counter, if it asked for the buffers and they are there. -/
theorem context_execute_of_unfailing (p : Producer) (unfailing : s.device.Unfailing) :
    (p.execute s).2.context = s.context.clearedIf (p.requested && s.clearable) := by
  unfold Context.clearedIf
  rcases p.execute_cases s with ⟨he, hp, -⟩ | ⟨asked, b, u, hb, hc, -, hp⟩
  · rw [hp.context, if_neg]
    -- otherwise the writer would have been called
    intro fires
    simp only [Bool.and_eq_true, Session.clearable, Option.any_eq_true] at fires
    obtain ⟨⟨asked, b, hb, live⟩, -⟩ := fires
    obtain ⟨u, hu⟩ := Session.clearCounter_of_unfailing unfailing (Buffers.counter_of_ofContext? hb) live
    have called := congrArg Producer.writes ((p.execute_of_clear s asked hb hu).1.symm.trans he)
    simp at called
  · have hctx : (p.execute s).2.context = u.context := hp.context
    rw [hctx]
    rcases Session.of_clearCounter_ok hc with ⟨up, rfl⟩ | ⟨down, counter, v, hcounter, hf, -, hu, -⟩
    · simp [up]
    · rw [Buffers.counter_of_ofContext? hb] at hcounter
      cases hcounter
      have live : (s.room b.counter).isSome := Device.LawfulDevice.live_of_fill (Session.of_absorb_ok hf).1
      have clearable : s.clearable = true := by simp [Session.clearable, hb, live]
      simp [hu, asked, clearable, down]

theorem clearable_execute (p : Producer) (s : Session (Faulty Recorder)) :
    (p.execute s).2.clearable = s.clearable := by
  have same : Buffers.ofContext? (p.execute s).2.context = Buffers.ofContext? s.context := by
    rcases p.context_execute s with hc | hc
    · rw [hc]
    · rw [hc, Buffers.ofContext?_setFlag _ (by decide)]
  simp only [Session.clearable, same, p.room_execute s]

/-- All producers together do to the context what one of them does that asked for the buffers. -/
theorem context_round (ps : List Producer) (unfailing : s.device.Unfailing) :
    (Task.round Scene.executeTurn (ps.map .producer) s).2.context =
      s.context.clearedIf (ps.any (·.requested) && s.clearable) := by
  induction ps generalizing s with
  | nil => rfl
  | cons p ps ih =>
      have turn : (Scene.executeTurn (.producer p) s).2.context =
          s.context.clearedIf (p.requested && s.clearable) :=
        p.context_execute_of_unfailing (s := Scene.announce "execute" (.producer p) s) unfailing
      have clearable : (Scene.executeTurn (.producer p) s).2.clearable = s.clearable :=
        p.clearable_execute _
      have rest := ih (s := (Scene.executeTurn (.producer p) s).2)
        (p.device_execute _ Faulty.commandsKeep_unfailing unfailing)
      rw [turn, clearable, Context.clearedIf_clearedIf] at rest
      rw [List.map_cons, Task.round, rest, List.any_cons, Bool.and_or_distrib_right]

end Task.Producer

/-! ## Whether the fragments are resolved -/

namespace Task.Resolve
variable (r : Resolve)

/-- The draw of the pass, if the pass is built, and all buffers in the context are there. -/
def passDraw? [Registry σ] (s : Session σ) : Option Draw :=
  match r.pass, Buffers.ofContext? s.context with
  | some pass, some b =>
    if (r.resolveDraw pass b).buffers.all fun x => (s.room x.buffer).isSome then
      some (r.resolveDraw pass b)
    else none
  | _, _ => none

/-- The draw of the task, if the frame needs the task. -/
def draw? [Registry σ] (s : Session σ) : Option Draw :=
  if r.isNeeded s.context then r.passDraw? s else none

theorem draw?_congr [Registry σ] {s t : Session σ} (context : t.context = s.context)
    (room : t.room = s.room) : r.draw? t = r.draw? s := by
  simp only [draw?, passDraw?, context, room]

theorem draws_eq {s t : Session σ} (same : t.history = s.history) :
    t.draws = s.draws ++ (none : Option Draw).toList := by
  simp [Session.draws, same]

variable {s : Session (Faulty Recorder)}

/-- Where no call fails, the pass is drawn if its buffers are there. -/
theorem draws_drawPass (unfailing : s.device.Unfailing) :
    (r.drawPass s).draws = s.draws ++ (r.passDraw? s).toList := by
  unfold drawPass passDraw?
  split
  · rename_i unbuilt
    rw [unbuilt]
    exact draws_eq rfl
  · rename_i pass built
    rw [built]
    cases Buffers.ofContext? s.context with
    | none => exact draws_eq rfl
    | some b =>
        dsimp only
        by_cases live : (r.resolveDraw pass b).buffers.all fun x => (s.room x.buffer).isSome
        · obtain ⟨t, ht⟩ := Session.draw_of_unfailing unfailing (List.all_eq_true.mp live)
          obtain ⟨-, -, -, hh⟩ := Session.of_absorb_ok ht
          rw [ht, if_pos live]
          simp [Session.draws, Session.note, hh, Event.resolvedDraw?]
        · rw [if_neg live]
          split <;> rename_i hd
          · exact draws_eq (Session.of_absorb_error hd).2.2.2
          · have all := Device.LawfulDevice.live_of_draw (Session.of_absorb_ok hd).1
            exact absurd (List.all_eq_true.mpr all) live

theorem draws_execute (unfailing : s.device.Unfailing) :
    (r.execute s).draws = s.draws ++ (r.draw? s).toList := by
  unfold draw? isNeeded
  cases hr : s.context.hasFlag .requestFlag with
  | false =>
      rw [Bool.and_false]
      exact draws_eq (r.execute_of_idle s hr).history
  | true =>
      rw [r.execute_of_requested s hr, Bool.and_true]
      split
      · have same : r.passDraw? (takeDown s) = r.passDraw? s := by
          simp only [passDraw?, takeDown, Session.withContext, Buffers.ofContext?_dropFlag]
          rfl
        rw [← same]
        exact r.draws_drawPass unfailing
      · exact draws_eq rfl

theorem clears_execute [CommandSink σ] (s : Session σ) : (r.execute s).clears = s.clears := by
  obtain ⟨made, hh, hadds⟩ := r.execute_adds s
  rw [Session.clears, hh, List.countP_append]
  cases hadds <;> rfl

end Task.Resolve

/-! ## What is observed of the device -/

namespace Device

/-- Whether an operation is about making, changing or giving back a buffer. -/
def Operation.isStock : Operation → Bool
  | .allocated _ _ _ | .resized _ _ _ | .uploaded _ _ | .destroyed _ => true
  | .filled _ _ _ | .drawn _ _ _ _ _ => false

namespace Recorder

/-- The operations on buffers, without commands. -/
def stock (d : Recorder) : List Operation := d.operations.filter (·.isStock)

/-- What the buffer with this number is for, and for how many elements it has room. -/
def shape? (d : Recorder) (id : Nat) : Option (Role × Nat) :=
  (d.buffers.get? id).map fun b => (b.role, b.capacity)

theorem commandsKeep_stock (l : List Operation) : CommandsKeep fun d : Recorder => d.stock = l where
  fill d x v h := by
    simp only [CommandSink.fill, Recorder.fill]
    split
    · exact h
    · simpa [Reply.done, Recorder.update, stock, Operation.isStock] using h
  draw d c h := by
    simp only [CommandSink.draw, Recorder.draw]
    split
    · exact h
    · simpa [Reply.done, stock, Operation.isStock] using h

theorem commandsKeep_shape? (f : Nat → Option (Role × Nat)) :
    CommandsKeep fun d : Recorder => d.shape? = f where
  fill d x v h := by
    simp only [CommandSink.fill, Recorder.fill]
    split
    · exact h
    · rename_i b known
      rw [← h]
      funext id
      simp only [Reply.done, shape?, Recorder.update, Table.get?_insert]
      split
      · rename_i same
        rw [same, show d.buffers.get? x.id = some b from known]
        rfl
      · rfl
  draw d c h := by
    simp only [CommandSink.draw, Recorder.draw]
    split <;> exact h

end Recorder

end Device

/-! ## Two frames -/

namespace Scene

/-- The scenes have the same session, and the same tasks but for those that add fragments. -/
structure Recast (y x : Scene σ) : Prop where
  session : y.session = x.session
  setups : y.setups = x.setups
  resolves : y.resolves = x.resolves

/-- The scenes are the same, but for what tasks that add fragments did on their own account: for those tasks
themselves, and for commands of their writers. -/
structure SameOutcome (x y : Scene (Faulty Recorder)) : Prop where
  context : y.session.context = x.session.context
  resolves : y.resolves = x.resolves
  buffers : y.session.device.device.shape? = x.session.device.device.shape?
  stock : y.session.device.device.stock = x.session.device.device.stock
  clears : y.session.clears = x.session.clears
  draws : y.session.draws = x.session.draws

namespace Course
variable {r : Task.Resolve}

section
variable {scene : Scene (Faulty Recorder)} (course : scene.Course r)
include course

theorem unfailing_start (unfailing : scene.session.device.Unfailing) : course.start.device.Unfailing := by
  rw [course.start_alike.device]
  exact course.device_prepared Faulty.registryKeeps_unfailing unfailing

theorem unfailing_finish (unfailing : scene.session.device.Unfailing) : course.finish.device.Unfailing :=
  Turn.device_producers Faulty.commandsKeep_unfailing _ _ (course.unfailing_start unfailing)

theorem room_finish : course.finish.room = course.start.room :=
  Turn.device_producers (Device.commandsKeep_capacity? (Registry.capacity? course.start.device)) _ _ rfl

theorem context_finish (unfailing : scene.session.device.Unfailing) : course.finish.context =
    course.start.context.clearedIf (scene.producers.any (·.wants) && course.start.clearable) := by
  rw [finish, Task.Producer.context_round _ (course.unfailing_start unfailing), producers, List.any_map]
  rfl

theorem draws_runFrame (unfailing : scene.session.device.Unfailing) : scene.runFrame.session.draws =
    course.start.draws ++ ((r.prepare course.opened).1.draw? course.finish).toList := by
  rw [course.session, ← course.filled.draws]
  exact (r.prepare course.opened).1.draws_execute
    (s := announce "execute" (.resolve _) course.finish) (course.unfailing_finish unfailing)

theorem clears_runFrame : scene.runFrame.session.clears = course.start.clears +
    (!course.start.context.hasFlag .clearedFlag && course.finish.context.hasFlag .clearedFlag).toNat := by
  rw [course.session, ← course.filled.clears]
  exact (r.prepare course.opened).1.clears_execute (announce "execute" (.resolve _) course.finish)

theorem context_runFrame : scene.runFrame.session.context =
    if course.finish.context.hasFlag .requestFlag then (Task.Resolve.takeDown course.finish).context
    else course.finish.context := by
  rw [course.session]
  exact (r.prepare course.opened).1.context_execute (announce "execute" (.resolve _) course.finish)

/-- What no command changes, the frame leaves as it was when the last task was prepared. -/
theorem executed_eq {α : Type} {f : Recorder → α} (keep : ∀ a, CommandsKeep fun d => f d = a) :
    f scene.runFrame.session.device.device = f course.start.device.device := by
  rw [course.start_alike.device]
  exact course.device_executed (Faulty.commandsKeep (keep _)) rfl

end

variable {x y : Scene (Faulty Recorder)} (cx : x.Course r) (cy : y.Course r)
include cx cy

/-- Whoever asks for the buffers, the task that resolves is prepared alike. -/
theorem prepared_alike (recast : y.Recast x)
    (wants : y.producers.any (·.wants) = x.producers.any (·.wants)) :
    (r.prepare cy.opened).1 = (r.prepare cx.opened).1 ∧ Session.Alike cx.start cy.start := by
  have opened : Session.Alike cx.opened cy.opened := by
    have hy := cy.opened_alike
    rw [recast.session, recast.setups, openContext_eq, wants, ← openContext_eq] at hy
    exact cx.opened_alike.symm.trans hy
  obtain ⟨same, alike⟩ := r.prepare_agree opened
  rw [← cx.prepared, ← cy.prepared] at alike
  exact ⟨same, (cx.start_alike.symm.trans alike).trans cy.start_alike⟩

end Course

/-- Take two frames of the same tasks on the same session, where no call fails; only the tasks that add fragments
differ, in any way. If some of them asks for the buffers in both frames, or none in either, then the same comes
of both frames. -/
theorem same_outcome_of_recast {x y : Scene (Faulty Recorder)} (hx : x.Formed) (hy : y.Formed)
    (one : x.resolves.length = 1) (recast : y.Recast x) (unfailing : x.session.device.Unfailing)
    (wants : y.producers.any (·.wants) = x.producers.any (·.wants)) :
    SameOutcome x.runFrame y.runFrame := by
  obtain ⟨r, hr⟩ := List.length_eq_one_iff.mp one
  obtain ⟨cx⟩ := hx.course hr
  obtain ⟨cy⟩ := hy.course (recast.resolves.trans hr)
  obtain ⟨task, start⟩ := cx.prepared_alike cy recast wants
  have unfailing' : y.session.device.Unfailing := recast.session ▸ unfailing
  have clearable : cy.start.clearable = cx.start.clearable := by
    simp only [Session.clearable, start.context, start.room]
  have context : cy.finish.context = cx.finish.context := by
    rw [cx.context_finish unfailing, cy.context_finish unfailing', start.context, clearable, wants]
  have room : cy.finish.room = cx.finish.room := by
    rw [cx.room_finish, cy.room_finish, start.room]
  refine ⟨?_, ?_, ?_, ?_, ?_, ?_⟩
  · rw [cx.context_runFrame, cy.context_runFrame, Task.Resolve.takeDown, Task.Resolve.takeDown, context]
    rfl
  · rw [cx.resolves, cy.resolves, task]
  · rw [cx.executed_eq Recorder.commandsKeep_shape?, cy.executed_eq Recorder.commandsKeep_shape?, start.device]
  · rw [cx.executed_eq Recorder.commandsKeep_stock, cy.executed_eq Recorder.commandsKeep_stock, start.device]
  · rw [cx.clears_runFrame, cy.clears_runFrame, context, start.context, Session.clears, start.history,
      ← Session.clears]
  · rw [cx.draws_runFrame unfailing, cy.draws_runFrame unfailing', task,
      (r.prepare cx.opened).1.draw?_congr context room, Session.draws, start.history, ← Session.draws]

/-- The tasks of a scene, with other ones that add fragments between them. -/
def tasksWith (scene : Scene σ) (ps : List Task.Producer) : List Task :=
  scene.resolves.map .resolve ++ ps.map .producer ++ scene.setups.map .setup

/-- The scene with other tasks that add fragments. -/
def withProducers (scene : Scene σ) (ps : List Task.Producer) : Scene σ where
  tasks := scene.tasksWith ps
  graph := Graph.addAll {} (numbered ((scene.tasksWith ps).map Task.kind))
  session := scene.session

theorem formed_withProducers (scene : Scene σ) (ps : List Task.Producer) :
    (scene.withProducers ps).Formed := by
  refine formed_of_numbered rfl fun k hk => ?_
  simp only [withProducers, tasksWith, List.map_append, List.map_map, List.mem_append, List.mem_map] at hk
  rcases hk with (⟨_, -, rfl⟩ | ⟨_, -, rfl⟩) | ⟨_, -, rfl⟩ <;> rfl

theorem recast_withProducers (scene : Scene σ) (ps : List Task.Producer) :
    (scene.withProducers ps).Recast scene := by
  refine ⟨rfl, ?_, ?_⟩
  · rw [setups, withProducers, tasksWith]
    simp [List.filterMap_append, List.filterMap_map, Function.comp_def, Task.setup?]
  · rw [resolves, withProducers, tasksWith]
    simp [List.filterMap_append, List.filterMap_map, Function.comp_def, Task.resolve?]

/-- One task that adds fragments, and one that resolves them. -/
def window : List Task.Recipe :=
  [.setup "targets" [], .producer "glass" {} { write := fun _ => .done (.ok ()) }, .resolve "resolve" {}]

/-- A scene between two frames. -/
def windowScene : Scene (Faulty Recorder) := [Move.frame].foldl play (compose window { device := {} })

/-- A task without work, and one that spoils the counter and fails. -/
def dustAndSmoke : List Task.Producer :=
  [{ name := "dust", writer := { hasWork := false, write := fun _ => .done (.ok ()) } },
    { name := "smoke"
      writer := { write := fun b => .fill b.counter 7 fun _ => .done (.error (.missingPass "smoke")) } }]

/-- The device records one command more, and nothing else is different. -/
theorem same_outcome_of_dustAndSmoke :
    windowScene.session.device.Unfailing ∧
    windowScene.runFrame.session.device.device.operations.length = 15 ∧
    (windowScene.withProducers dustAndSmoke).runFrame.session.device.device.operations.length = 16 ∧
    SameOutcome windowScene.runFrame (windowScene.withProducers dustAndSmoke).runFrame := by
  have between : windowScene.Between := (between_compose window ({} : Recorder) rfl).foldl_play [.frame]
  have unfailing : windowScene.session.device.Unfailing := fun _ _ _ => rfl
  exact ⟨unfailing, rfl, rfl, same_outcome_of_recast between.formed (formed_withProducers _ _) between.one
    (recast_withProducers _ _) unfailing rfl⟩

end Scene

end Transparency
