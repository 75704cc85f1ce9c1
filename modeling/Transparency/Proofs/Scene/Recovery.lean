import Transparency.Proofs.Scene.ClearBeforeWrite
import Transparency.Proofs.Scene.Run
import Transparency.Proofs.Task.Served

/-!
# No failure sticks

Whatever failed in the frames before: a frame in which no call fails is drawn in full, and a frame in
which no task asks for the buffers does nothing.
-/

namespace Transparency
open Device (Registry CommandSink LawfulRegistry Recorder Faulty FaultPlan)
open Fragment (Buffers Bundle)
open Transparency.Frame (Session Moment counterClearValue)
open Transparency.Frame.Session (Performs Records)

/-! ## The producers' turns -/

namespace Task

theorem producers_idle {σ : Type} [CommandSink σ] {ps : List Producer}
    (idle : ∀ p ∈ ps, p.requested = false) (s : Session σ) :
    Session.Alike s (round Scene.executeTurn (ps.map .producer) s).2 := by
  induction ps generalizing s with
  | nil => exact .refl s
  | cons p ps ih =>
      have hp := (p.execute_of_idle (Scene.announce "execute" (.producer p) s)
        (idle p (List.mem_cons_self ..))).2
      exact ((Session.alike_report _ _ _).trans hp).trans
        (ih (fun q hq => idle q (List.mem_cons_of_mem _ hq)) _)

theorem exists_records_producers (ps : List Producer) (s : Session (Faulty Recorder)) :
    ∃ made, Records s (round Scene.executeTurn (ps.map .producer) s).2 made := by
  induction ps generalizing s with
  | nil => exact ⟨[], Session.records_of_alike (.refl s)⟩
  | cons p ps ih =>
      obtain ⟨_, hp⟩ := p.exists_records (Scene.announce "execute" (.producer p) s)
      obtain ⟨_, hrest⟩ := ih (Scene.executeTurn (.producer p) s).2
      exact ⟨_, ((Session.records_of_alike (Session.alike_report _ _ _)).trans hp).trans hrest⟩

variable {b : Buffers} {s : Session (Faulty Recorder)}

/-- Filling the counter clears all of it, and is recorded as a fill of the counter. -/
theorem Served.clears (h : Served b s) {u : Session (Faulty Recorder)}
    (hu : s.fill b.counter counterClearValue = (.ok (), u)) : ∃ n,
      ClearsAll b.counter n ⟨.filled b.counter counterClearValue, u.device⟩ ∧
      Moment.operation? ⟨.filled b.counter counterClearValue, u.device⟩ =
        some (.filled .counter counterClearValue n) := by
  obtain ⟨n, -, hall⟩ := clearsAll_of_fill hu
  have hp := (Performs.refl s).fill b.counter counterClearValue
  rw [hu] at hp
  have label := (h.labelled.performs hp) b.counter b.counter_mem_toList
  obtain ⟨-, held, known, rfl, -⟩ := id hall
  refine ⟨_, hall, ?_⟩
  simp only [Moment.operation?, known, Option.map_some, label.role held known, h.held.roles_eq.1]

/-- Once the counter is cleared, every producer that asked for the buffers calls its writer. -/
theorem Served.writes (h : Served b s) (up : s.context.hasFlag .clearedFlag = true)
    (ps : List Producer) : ∃ parts, List.Forall₂ (Wrote b) (ps.filter (·.requested)) parts ∧
      Served b (round Scene.executeTurn (ps.map .producer) s).2 ∧
      (round Scene.executeTurn (ps.map .producer) s).2.history = s.history ++ parts.flatten := by
  induction ps generalizing s with
  | nil => exact ⟨[], .nil, h, by simp [round]⟩
  | cons p ps ih =>
      have ha : Session.Alike s (Scene.announce "execute" (.producer p) s) :=
        Session.alike_report _ _ _
      have hs := h.alike ha
      cases asked : p.requested with
      | false =>
          have hp := ha.trans (p.execute_of_idle _ asked).2
          obtain ⟨parts, hparts, ht, hh⟩ := ih (h.alike hp) (by rw [hp.context, up])
          refine ⟨parts, by simpa [asked] using hparts, ht, ?_⟩
          exact hh.trans (by rw [hp.history])
      | true =>
          obtain ⟨made, hmade, ht, hcase⟩ := hs.execute_producer asked
          rcases hcase with ⟨-, hc, hh⟩ | ⟨down, -⟩
          · obtain ⟨parts, hparts, hrest, hhistory⟩ := ih ht (by rw [hc, ha.context, up])
            refine ⟨made :: parts, by simpa [asked] using ⟨hmade, hparts⟩, hrest, ?_⟩
            apply hhistory.trans
            rw [hh, ha.history]
            simp
          · rw [ha.context, up] at down
            cases down

/-- The first producer that asked for the buffers has the counter cleared before it calls its writer. -/
theorem Served.clears_and_writes (h : Served b s) (down : s.context.hasFlag .clearedFlag = false)
    (ps : List Producer) (asking : ∃ p ∈ ps, p.requested = true) : ∃ n d parts,
      ClearsAll b.counter n ⟨.filled b.counter counterClearValue, d⟩ ∧
      Moment.operation? ⟨.filled b.counter counterClearValue, d⟩ =
        some (.filled .counter counterClearValue n) ∧
      List.Forall₂ (Wrote b) (ps.filter (·.requested)) parts ∧
      Served b (round Scene.executeTurn (ps.map .producer) s).2 ∧
      (round Scene.executeTurn (ps.map .producer) s).2.history = s.history ++
        [⟨.filled b.counter counterClearValue, d⟩, ⟨.cleared b.counter, d⟩] ++ parts.flatten := by
  induction ps generalizing s with
  | nil =>
      obtain ⟨p, hp, -⟩ := asking
      cases hp
  | cons p ps ih =>
      have ha : Session.Alike s (Scene.announce "execute" (.producer p) s) :=
        Session.alike_report _ _ _
      have hs := h.alike ha
      cases asked : p.requested with
      | false =>
          have hp := ha.trans (p.execute_of_idle _ asked).2
          have hsome : ∃ q ∈ ps, q.requested = true := by
            obtain ⟨q, hq, hasked⟩ := asking
            rcases List.mem_cons.mp hq with rfl | hq
            · rw [asked] at hasked; cases hasked
            · exact ⟨q, hq, hasked⟩
          obtain ⟨n, d, parts, hall, recorded, hparts, ht, hh⟩ :=
            ih (h.alike hp) (by rw [hp.context, down]) hsome
          refine ⟨n, d, parts, hall, recorded, by simpa [asked] using hparts, ht, ?_⟩
          exact hh.trans (by rw [hp.history])
      | true =>
          obtain ⟨made, hmade, ht, hcase⟩ := hs.execute_producer asked
          rcases hcase with ⟨up, -⟩ | ⟨-, hc, u, hu, hh⟩
          · rw [ha.context, down] at up
            cases up
          · obtain ⟨n, hall, recorded⟩ := hs.clears hu
            have up : (p.execute (Scene.announce "execute" (.producer p) s)).2.context.hasFlag
                .clearedFlag = true := by rw [hc]; simp
            obtain ⟨parts, hparts, hrest, hhistory⟩ := ht.writes up ps
            refine ⟨n, u.device, made :: parts, hall, recorded, by simpa [asked] using ⟨hmade, hparts⟩,
              hrest, ?_⟩
            apply hhistory.trans
            rw [hh, ha.history]
            simp

end Task

namespace Scene

/-! ## A frame in which no task asks for the buffers -/

section
variable {σ : Type} [Registry σ] [CommandSink σ]

/-- Nothing comes of a frame: no call is made on the device, and what resolves stays as it is. -/
structure Idles (scene : Scene σ) : Prop where
  device : scene.runFrame.session.device = scene.session.device
  history : scene.runFrame.session.history = scene.session.history
  resolves : scene.runFrame.resolves = scene.resolves

theorem Course.idles {scene : Scene σ} {r : Task.Resolve} (course : scene.Course r)
    (one : scene.resolves = [r]) (request : scene.session.context.hasFlag .requestFlag = false)
    (idle : ∀ p ∈ scene.producers, p.wants = false) : scene.Idles := by
  have opened := course.opened_alike
  have down : course.opened.context.hasFlag .requestFlag = false := by
    rw [opened.context]
    apply (hasFlag_openContext _ _ _).1.trans
    rw [request, Bool.false_or]
    exact List.any_eq_false.mpr fun p hp => by simp [idle p hp]
  obtain ⟨hr, hprepare⟩ := r.prepare_of_not_isNeeded course.opened (by simp [Task.Resolve.isNeeded, down])
  have hstart : Session.Alike course.opened course.start := by
    refine Session.Alike.trans ?_ course.start_alike
    rw [course.prepared]
    exact hprepare
  have hfinish : Session.Alike course.start course.finish := by
    refine Task.producers_idle (fun p hp => ?_) course.start
    obtain ⟨q, hq, rfl⟩ := List.mem_map.mp hp
    exact idle q hq
  have hrun : Session.Alike course.finish scene.runFrame.session := by
    rw [course.session]
    refine (Session.alike_report _ _ _).trans ((r.prepare course.opened).1.execute_of_idle _ ?_)
    show course.finish.context.hasFlag .requestFlag = false
    rw [hfinish.context, hstart.context, down]
  have hall := (opened.trans hstart).trans (hfinish.trans hrun)
  exact ⟨hall.device, hall.history, by rw [course.resolves, hr, one]⟩

end

/-! ## A frame that is drawn in full -/

/-- A frame is drawn in full: once its tasks are prepared, the whole counter is cleared, each producer
with anything to add calls its writer, in order, and the fragments are resolved. The device records the fill
of the counter, what the writers do, and the draw, and nothing else. -/
def Completes (scene : Scene (Faulty Recorder)) (r : Task.Resolve) : Prop :=
  ∃ b n d parts draw, b.counter.role = .counter ∧
    ClearsAll b.counter n ⟨.filled b.counter counterClearValue, d⟩ ∧
    List.Forall₂ (Task.Wrote b) (scene.producers.filter (·.wants)) parts ∧
    draw.label = r.name ∧ draw.buffers = b.forReading ∧
    scene.runFrame.session.history = scene.prepared.session.history ++
      [⟨.filled b.counter counterClearValue, d⟩, ⟨.cleared b.counter, d⟩] ++ parts.flatten ++
      [⟨.drew draw, scene.runFrame.session.device⟩, ⟨.resolved r.name draw, scene.runFrame.session.device⟩] ∧
    scene.runFrame.session.device.device.operations = scene.prepared.session.device.device.operations ++
      [.filled .counter counterClearValue n] ++ parts.flatten.filterMap (·.operation?) ++ [.ofDraw draw]

section
variable {scene : Scene (Faulty Recorder)} {r : Task.Resolve} (course : scene.Course r)
include course

/-- The producers find the buffers in the context, and the task that resolves has its pass. -/
theorem Course.served (request : scene.session.context.hasFlag .requestFlag = false)
    (sound : scene.session.Sound) (held : r.bundle.Held scene.session) (labelled : r.bundle.Labelled scene.session)
    (quiet : scene.session.device.Quiet) (enabled : r.settings.enabled = true)
    (nonneg : (r.sizeFor (openContext scene.setups scene.producers scene.session.context)).isNegative =
      false)
    (wanted : scene.producers.any (·.wants) = true) : ∃ b, Task.Served b course.start ∧
      (r.prepare course.opened).1.pass.isSome = true ∧
      (r.prepare course.opened).1.settings = r.settings := by
  have opened := course.opened_alike
  have hquiet : course.opened.device.Quiet := by rw [opened.device]; exact quiet
  have hsound : course.opened.Sound := opened.sound sound
  have hheld : r.bundle.Held course.opened := (held.keeps (.of_eq rfl)).keeps (.of_eq opened.room)
  have needed : r.isNeeded course.opened.context = true := by
    rw [Task.Resolve.isNeeded, enabled, opened.context]
    apply (hasFlag_openContext _ _ _).1.trans
    rw [request, wanted, Bool.or_true]
  have hnonneg : (r.sizeFor (Task.Resolve.unclear course.opened).context).isNegative = false := by
    rw [Task.Resolve.unclear, Session.withContext, r.sizeFor_dropFlag, opened.context]
    exact nonneg
  obtain ⟨b, hbundle, hb, hc, pass, settings⟩ := r.prepare_of_quiet hquiet hsound hheld needed hnonneg
  have hlabelled : b.Labelled (r.prepare course.opened).2 :=
    r.prepare_labelled hsound (labelled.congr opened.device) b hbundle
  have hprepared : Session.Alike (r.prepare course.opened).2 course.start := by
    rw [← course.prepared]
    exact course.start_alike
  refine ⟨b, ⟨?_, hb.keeps (.of_eq hprepared.room), hlabelled.congr hprepared.device, ?_⟩, pass, settings⟩
  · rw [hprepared.context, hc, Buffers.ofContext?_publish]
  · rw [course.start_alike.device]
    exact course.device_prepared Faulty.registryKeeps_quiet quiet

/-- While the tasks are executed, the device records the commands that the history tells of. -/
theorem Course.exists_records :
    ∃ made, Records scene.prepared.session scene.runFrame.session made := by
  obtain ⟨_, hproducers⟩ := Task.exists_records_producers course.producers course.start
  obtain ⟨_, hlast⟩ := (r.prepare course.opened).1.exists_records
    (announce "execute" (.resolve (r.prepare course.opened).1) course.finish)
  rw [course.session]
  exact ⟨_, ((Session.records_of_alike course.start_alike).trans
    (hproducers.alike (Session.alike_report _ _ _))).trans hlast⟩

theorem Course.completes (request : scene.session.context.hasFlag .requestFlag = false)
    (cleared : scene.session.context.hasFlag .clearedFlag = false) (sound : scene.session.Sound)
    (held : r.bundle.Held scene.session) (labelled : r.bundle.Labelled scene.session)
    (quiet : scene.session.device.Quiet) (enabled : r.settings.enabled = true)
    (nonneg : (r.sizeFor (openContext scene.setups scene.producers scene.session.context)).isNegative =
      false)
    (wanted : ∃ p ∈ scene.producers, p.wants = true) : scene.Completes r := by
  have any : scene.producers.any (·.wants) = true := List.any_eq_true.mpr wanted
  obtain ⟨b, hstart, pass, settings⟩ :=
    course.served request sound held labelled quiet enabled nonneg any
  have asking : ∃ p ∈ course.producers, p.requested = true := by
    obtain ⟨p, hp, wants⟩ := wanted
    exact ⟨p.asked, List.mem_map.mpr ⟨p, hp, rfl⟩, wants⟩
  obtain ⟨n, d, parts, hall, recorded, hparts, hfinish, hhistory⟩ :=
    hstart.clears_and_writes (course.clearedFlag_start cleared) course.producers asking
  have asked : course.finish.context.hasFlag .requestFlag = true :=
    (course.requestFlag_finish_eq_wants request).trans any
  obtain ⟨draw, hlabel, hdraw, hlast⟩ := (hfinish.alike (Session.alike_report _ _ _)).execute_resolve pass
    (by rw [settings, enabled]) asked
  have history : scene.runFrame.session.history = scene.prepared.session.history ++
      ([⟨.filled b.counter counterClearValue, d⟩, ⟨.cleared b.counter, d⟩] ++ parts.flatten ++
      [⟨.drew draw, scene.runFrame.session.device⟩,
        ⟨.resolved r.name draw, scene.runFrame.session.device⟩]) := by
    rw [course.session]
    apply hlast.trans
    rw [r.name_prepare, ← List.append_assoc, ← List.append_assoc]
    refine congrArg (· ++ _) (hhistory.trans ?_)
    rw [course.start_alike.history]
  obtain ⟨_, records⟩ := course.exists_records
  refine ⟨b, n, d, parts, draw, hstart.held.roles_eq.1, hall, ?_, by rw [hlabel, r.name_prepare], hdraw, ?_, ?_⟩
  · rw [Course.producers, List.filter_map, List.forall₂_map_left_iff] at hparts
    exact hparts
  · rw [history]
    simp only [List.append_assoc]
  · rw [(records.of_history history).operations]
    simp only [List.filterMap_append, List.filterMap_cons_some recorded, List.append_assoc]
    rfl

end

/-! ## What holds between frames, whatever failed in them -/

/-- What holds between frames of the task that resolves: the device does as it is told, and the buffers of
the task are there, with the roles of their handles. -/
structure Usable (bundle : Bundle) (s : Session (Faulty Recorder)) : Prop where
  sound : s.Sound
  able : s.device.device.Able
  held : bundle.Held s
  labelled : bundle.Labelled s

theorem undisturbed_usable : Undisturbed Usable where
  clear h := ⟨h.sound, h.able, h.held.keeps (.of_eq rfl), h.labelled⟩
  release {bundle s} h := by
    have hs := bundle.release_stocks s
    exact ⟨hs.sound h.sound, hs.device (Faulty.registryKeeps Recorder.registryKeeps_able) h.able,
      bundle.held_release s, bundle.labelled_release s⟩
  disturb _ h := ⟨h.sound, h.able, h.held.keeps (.of_eq rfl), h.labelled⟩

theorem Between.usable_runFrame {scene : Scene (Faulty Recorder)} (h : scene.Between)
    (hs : scene.Bundles Usable) : scene.runFrame.Bundles Usable := by
  obtain ⟨r, one⟩ := List.length_eq_one_iff.mp h.one
  obtain ⟨course⟩ := h.formed.course one
  obtain ⟨sound, able, held, labelled⟩ := hs r (mem_tasks_of_resolves one)
  intro r' hr'
  have hr := eq_of_mem_tasks course.resolves hr'
  subst hr
  have opened := course.opened_alike
  have prepared := (r.prepare_keeps _ (opened.sound sound) (held.keeps (.of_eq opened.room))).2
  have labels := r.prepare_labelled (opened.sound sound) (labelled.congr opened.device)
  rw [← course.prepared] at prepared labels
  exact ⟨course.device Device.registryKeeps_sound Device.commandsKeep_sound sound,
    course.device (Faulty.registryKeeps Recorder.registryKeeps_able)
      (Faulty.commandsKeep Recorder.commandsKeep_able) able, prepared.keeps (.of_eq course.room),
    fun b hb x hx => course.device_executed (Faulty.commandsKeep (Recorder.commandsKeep_labels x))
      (labels b hb x hx)⟩

theorem usable_of_moves (recipes : List Task.Recipe) (one : recipes.countP (·.isResolve) = 1)
    (moves : List Move) :
    (moves.foldl play (compose recipes ({ device := {} } : Faulty Recorder))).Bundles Usable :=
  (between_compose recipes _ one).bundles_foldl_play undisturbed_usable
    (fun _ => Between.usable_runFrame)
    (bundles_compose recipes ⟨fun id live => by simp [Table.get?_empty] at live, ⟨rfl, rfl⟩,
      Bundle.held_empty _, Bundle.labelled_empty _⟩) moves

/-- Whatever happened before a frame, and whatever failed: if no task has anything to add, nothing comes
of the frame; if some task has, no call fails, and the size to draw to is not negative, the frame is drawn
in full. -/
theorem recovers (recipes : List Task.Recipe) (one : recipes.countP (·.isResolve) = 1)
    (moves : List Move) :
    let scene := moves.foldl play (compose recipes ({ device := {} } : Faulty Recorder))
    ((∀ p ∈ scene.producers, p.wants = false) → scene.Idles) ∧
    ∀ r ∈ scene.resolves, r.settings.enabled = true →
      (r.sizeFor (openContext scene.setups scene.producers scene.session.context)).isNegative = false →
      (∀ n, scene.session.device.calls ≤ n → ∀ call, scene.session.device.plan n call = none) →
      (∃ p ∈ scene.producers, p.wants = true) → scene.Completes r := by
  intro scene
  have h : scene.Between := (between_compose recipes _ one).foldl_play moves
  obtain ⟨r, hr⟩ := List.length_eq_one_iff.mp h.one
  obtain ⟨course⟩ := h.formed.course hr
  obtain ⟨sound, able, held, labelled⟩ := usable_of_moves recipes one moves r (mem_tasks_of_resolves hr)
  refine ⟨course.idles hr h.request, ?_⟩
  rw [hr]
  intro r' hr' enabled nonneg quiet wanted
  rw [List.mem_singleton.mp hr'] at enabled nonneg ⊢
  exact course.completes h.request h.cleared sound held labelled ⟨quiet, able⟩ enabled nonneg wanted

/-- A task that adds fragments, and one that resolves them. -/
def glass : List Task.Recipe :=
  [.producer "glass" {} { write := fun _ => .done (.ok ()) }, .resolve "resolve" {}]

/-- A frame in which the first buffer cannot be made. -/
def failedFrame : List Move :=
  [.disturb fun n _ => if n = 0 then some (.allocationFailed .counter) else none, .frame]

/-- A scene after such a frame. -/
def failedOnce : Scene (Faulty Recorder) := failedFrame.foldl play (compose glass { device := {} })

/-- The next frame is drawn in full; were there nothing to add any more, nothing would come of it. -/
theorem failedOnce_recovers : (∃ r ∈ failedOnce.resolves, failedOnce.Completes r) ∧
    (failedOnce.play (.employ 0 { hasWork := false, write := fun _ => .done (.ok ()) })).Idles := by
  obtain ⟨r, hr⟩ : ∃ r, r ∈ failedOnce.resolves :=
    List.exists_mem_of_length_pos (Nat.lt_of_lt_of_eq Nat.zero_lt_one rfl)
  have enabled : failedOnce.resolves.all (·.settings.enabled) = true := by rfl
  have nonneg : failedOnce.resolves.all (fun r => !(r.sizeFor (openContext failedOnce.setups
      failedOnce.producers failedOnce.session.context)).isNegative) = true := by rfl
  have calls : failedOnce.session.device.calls = 1 := by rfl
  have wanted : failedOnce.producers.any (·.wants) = true := by rfl
  constructor
  · refine ⟨r, hr, (recovers glass rfl failedFrame).2 r hr (List.all_eq_true.mp enabled r hr) ?_
      (fun n hn call => ?_) (List.any_eq_true.mp wanted)⟩
    · exact Bool.not_eq_true' _ ▸ List.all_eq_true.mp nonneg r hr
    · have later : failedOnce.session.device.calls ≤ n := hn
      rw [calls] at later
      exact if_neg (by omega)
  · refine (recovers glass rfl (failedFrame ++ [.employ 0 _])).1 fun p hp => ?_
    cases hp with
    | head => rfl
    | tail _ hp => cases hp

end Scene

end Transparency
