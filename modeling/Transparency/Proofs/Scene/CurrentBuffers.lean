import Transparency.Device.Limited
import Transparency.Proofs.Device.Limited
import Transparency.Proofs.Fragment.Current
import Transparency.Proofs.Scene.Run

/-!
# No pass binds a buffer that is gone

Whatever failed, and however often the buffers were given back or the frame context emptied: a writer is
called, and fragments are resolved, with the buffers of the bundle alone, all of one allocation, and with
room for the size that the bundle records.
-/

namespace Transparency
open Buffer (Binding)
open Device (Registry CommandSink LawfulRegistry LawfulDevice Faulty Limited Limits)
open Fragment (Bundle Buffers)
open Transparency.Frame (Session Moment Event counterClearValue)
open Transparency.Frame.Session (Performs)

variable {σ : Type} [Registry σ]

/-- If a pass takes effect at a moment, it binds the buffers of the bundle. -/
def Frame.Moment.BoundTo (m : Moment σ) (bundle : Bundle) : Prop :=
  match m.event with
  | .wrote _ b => bundle.Backs m.device b.forWriting
  | .resolved _ draw => bundle.Backs m.device draw.buffers
  | _ => True

theorem Frame.Moment.boundTo_of_isCommand {m : Moment σ} {bundle : Bundle}
    (h : m.event.isCommand = true) : m.BoundTo bundle := by
  obtain ⟨e, d⟩ := m
  cases e <;> trivial

/-! ## While tasks are executed -/

/-- What the tasks of a frame find while they are executed. Once the counter is cleared, it is known to be
there, and with it the buffers in the frame context are those of the bundle. -/
structure Fragment.Bundle.Serving (bundle : Bundle) (s : Session σ) : Prop where
  consistent : bundle.Consistent s
  current : bundle.Current s
  cleared : s.context.hasFlag .clearedFlag = true →
    ∀ b, Buffers.ofContext? s.context = some b → bundle.buffers = some b

namespace Fragment.Bundle.Serving
variable {bundle : Bundle} {s t : Session σ} {b : Buffers}

/-- What commands and notes change of a session is no concern of the bundle. -/
theorem append (h : bundle.Serving s) (made : List (Moment σ)) (hr : t.room = s.room)
    (hc : t.context = s.context) (hh : t.history = s.history ++ made)
    (quiet : ∀ m ∈ made, m.event.isStock = false) : bundle.Serving t where
  consistent := h.consistent.append (made.map (·.event)) hr
    (by rw [Session.events, hh, List.map_append, Session.events])
    (by simpa only [List.forall_mem_map] using quiet)
  current := h.current.congr hr (by rw [hc])
  cleared := by rw [hc]; exact h.cleared

theorem alike (h : bundle.Serving s) (ha : Session.Alike s t) : bundle.Serving t :=
  h.append [] ha.room ha.context (by rw [ha.history, List.append_nil]) (by simp)

theorem takeDown (h : bundle.Serving s) : bundle.Serving (Task.Resolve.takeDown s) where
  consistent := h.consistent.congr rfl rfl
  current := h.current.congr rfl (by simp [Task.Resolve.takeDown, Session.withContext])
  cleared up := by simp [Task.Resolve.takeDown, Session.withContext] at up

section
variable [CommandSink σ] [LawfulDevice σ]

theorem performs (h : bundle.Serving s) (hp : Performs s t) : bundle.Serving t := by
  obtain ⟨made, hh, hmade⟩ := hp.history
  exact h.append made hp.room hp.context hh fun m hm => (Event.of_isCommand (hmade m hm)).1

/-- A buffer that can be filled is there, so where the counter is cleared, the buffers in the frame context
are those of the bundle. -/
theorem clearCounter (h : bundle.Serving s) (hb : Buffers.ofContext? s.context = some b)
    (hc : s.clearCounter = (.ok (), t)) :
    bundle.buffers = some b ∧ bundle.Serving t ∧ t.room = s.room ∧
      ∃ made, t.history = s.history ++ made ∧ ∀ m ∈ made, m.BoundTo bundle := by
  rcases Session.of_clearCounter_ok hc with ⟨up, rfl⟩ |
    ⟨-, counter, u, hcounter, hf, hd, hctx, hh⟩
  · exact ⟨h.cleared up b hb, h, rfl, [], by simp, by simp⟩
  · rw [Buffers.counter_of_ofContext? hb] at hcounter
    cases hcounter
    have live : (s.room b.counter).isSome :=
      LawfulDevice.live_of_fill (Session.of_absorb_ok hf).1
    have owned := h.current.of_live hb live
    have hp := (Performs.refl s).fill b.counter counterClearValue
    rw [hf] at hp
    have hr : t.room = s.room := (Session.room_of_device hd).trans hp.room
    have hbt : Buffers.ofContext? t.context = Buffers.ofContext? s.context := by
      rw [hctx, Buffers.ofContext?_setFlag _ (by decide)]
    refine ⟨owned, ⟨?_, h.current.congr hr hbt, fun _ b' hb' => ?_⟩, hr, _, hh, ?_⟩
    · refine h.consistent.append [.filled b.counter counterClearValue, .cleared b.counter] hr ?_
        (by simp [Event.isStock])
      rw [Session.events, hh, List.map_append, ← Session.events]
      rfl
    · rw [hbt, hb] at hb'
      cases hb'
      exact owned
    · intro m hm
      simp only [List.mem_cons, List.not_mem_nil, or_false] at hm
      rcases hm with rfl | rfl <;> trivial

theorem execute_producer (h : bundle.Serving s) (p : Task.Producer) :
    bundle.Serving (p.execute s).2 ∧
      ∃ made, (p.execute s).2.history = s.history ++ made ∧ ∀ m ∈ made, m.BoundTo bundle := by
  rcases p.execute_cases s with ⟨-, hp, hh⟩ | ⟨-, b, u, hb, hc, -, hp⟩
  · exact ⟨h.performs hp, [], by rw [hh, List.append_nil], by simp⟩
  · obtain ⟨owned, hu, hr, made, hmade, hbound⟩ := h.clearCounter hb hc
    have wrote : bundle.Serving (u.note (.wrote p.name b)) :=
      hu.append [⟨.wrote p.name b, u.device⟩] rfl rfl rfl (by simp [Event.isStock])
    obtain ⟨commands, hcommands, hquiet⟩ := hp.history
    refine ⟨wrote.performs hp, made ++ ⟨.wrote p.name b, u.device⟩ :: commands, ?_, ?_⟩
    · rw [hcommands, Session.note, hmade]
      simp
    · intro m hm
      simp only [List.mem_append, List.mem_cons] at hm
      rcases hm with hm | rfl | hm
      · exact hbound m hm
      · exact hu.consistent.backs owned rfl .readWriteStorage
      · exact Moment.boundTo_of_isCommand (hquiet m hm)

theorem producers (h : bundle.Serving s) (ps : List Task.Producer) :
    bundle.Serving (Task.round Scene.executeTurn (ps.map .producer) s).2 ∧
      ∃ made, (Task.round Scene.executeTurn (ps.map .producer) s).2.history = s.history ++ made ∧
        ∀ m ∈ made, m.BoundTo bundle := by
  induction ps generalizing s with
  | nil => exact ⟨h, [], by simp [Task.round], by simp⟩
  | cons p ps ih =>
      obtain ⟨hp, made, hmade, hbound⟩ :=
        (h.alike (Session.alike_report _ _ _)).execute_producer (s := Scene.announce "execute" (.producer p) s) p
      obtain ⟨hps, rest, hrest, hbound'⟩ := ih hp
      refine ⟨hps, made ++ rest, ?_, ?_⟩
      · rw [List.map_cons, Task.round]
        exact hrest.trans (by rw [hmade, List.append_assoc]; rfl)
      · intro m hm
        rcases List.mem_append.mp hm with hm | hm
        · exact hbound m hm
        · exact hbound' m hm

/-- A draw with a buffer that is not there fails, so the pass is drawn with the buffers of the bundle. -/
theorem execute_resolve (h : bundle.Serving s) (r : Task.Resolve) :
    bundle.Serving (r.execute s) ∧
      ∃ made, (r.execute s).history = s.history ++ made ∧ ∀ m ∈ made, m.BoundTo bundle := by
  cases hr : s.context.hasFlag .requestFlag with
  | false =>
      have ha := r.execute_of_idle s hr
      exact ⟨h.alike ha, [], by rw [ha.history, List.append_nil], by simp⟩
  | true =>
      have down := h.takeDown
      rw [r.execute_of_requested s hr]
      split
      · rcases r.drawPass_cases (Task.Resolve.takeDown s) with ⟨hp, hh⟩ | ⟨pass, b, u, hb, hd, he⟩
        · exact ⟨down.performs hp, [], by rw [hh, List.append_nil]; rfl, by simp⟩
        · obtain ⟨done, -, -, hh⟩ := Session.of_absorb_ok hd
          have live := LawfulDevice.live_of_draw done ⟨_, b.counter, .readOnlyStorage⟩
            (List.mem_cons_self ..)
          have owned := down.current.of_live hb live
          have hp := (Performs.refl (Task.Resolve.takeDown s)).draw (r.resolveDraw pass b)
          rw [hd] at hp
          have hu := down.performs hp
          rw [he]
          refine ⟨hu.append [⟨.resolved r.name (r.resolveDraw pass b), u.device⟩] rfl rfl rfl
            (by simp [Event.isStock]), [⟨.drew (r.resolveDraw pass b), u.device⟩,
              ⟨.resolved r.name (r.resolveDraw pass b), u.device⟩], ?_, ?_⟩
          · rw [Session.note, hh, List.append_assoc]
            rfl
          · intro m hm
            simp only [List.mem_cons, List.not_mem_nil, or_false] at hm
            rcases hm with rfl | rfl
            · trivial
            · exact hu.consistent.backs owned rfl .readOnlyStorage
      · exact ⟨down, [], by rw [List.append_nil]; rfl, by simp⟩

end

end Fragment.Bundle.Serving

/-! ## Frames, and what happens between them -/

namespace Fragment.Bundle

/-- What holds between frames. -/
structure Tied (bundle : Bundle) (s : Session σ) [LawfulRegistry σ] : Prop where
  sound : s.Sound
  consistent : bundle.Consistent s
  current : bundle.Current s

variable [LawfulRegistry σ] {bundle : Bundle} {s t : Session σ}

theorem Tied.congr (h : bundle.Tied s) (hd : t.device = s.device) (hh : t.history = s.history)
    (hb : Buffers.ofContext? t.context = Buffers.ofContext? s.context) : bundle.Tied t := by
  have hr : t.room = s.room := Session.room_of_device hd
  exact ⟨by rw [Session.Sound, hd]; exact h.sound,
    h.consistent.congr hr (Session.events_of_history hh), h.current.congr hr hb⟩

theorem Tied.alike (h : bundle.Tied s) (ha : Session.Alike s t) : bundle.Tied t :=
  h.congr ha.device ha.history (by rw [ha.context])

end Fragment.Bundle

theorem Task.Resolve.prepare_tied [LawfulRegistry σ] {r : Task.Resolve} {s : Session σ}
    (h : r.bundle.Tied s) : (r.prepare s).1.bundle.Tied (r.prepare s).2 := by
  cases hn : r.isNeeded s.context with
  | false =>
      obtain ⟨he, ha⟩ := r.prepare_of_not_isNeeded s hn
      rw [he]
      exact h.alike ha
  | true =>
      have unclear : r.bundle.Tied (unclear s) :=
        h.congr rfl rfl (by simp [Task.Resolve.unclear, Session.withContext])
      rcases r.prepare_of_isNeeded s hn with ⟨he, ha⟩ | ⟨u, ha, hb, hr⟩
      · rw [he]
        exact unclear.alike ha
      · have hu := unclear.alike ha
        rw [hb]
        refine Fragment.Bundle.Tied.alike ⟨?_, ?_, ?_⟩ hr
        · exact (r.bundle.prepare_stocks _ u).sound hu.sound
        · exact hu.consistent.prepare hu.sound _
        · exact hu.current.prepare hu.sound _

namespace Scene

theorem ofContext?_openContext (ss : List Task.Setup) (ps : List Task.Producer) (c : Frame.Context) :
    Buffers.ofContext? (openContext ss ps c) = Buffers.ofContext? c := by
  have setups : ∀ c : Frame.Context, Buffers.ofContext? (ss.foldl (fun c s => s.prepare c) c) =
      Buffers.ofContext? c := by
    intro c
    induction ss generalizing c with
    | nil => rfl
    | cons s ss ih =>
        rw [List.foldl_cons, ih]
        simp [Buffers.ofContext?, Task.Setup.prepare]
  rw [← setups c, openContext]
  generalize ss.foldl (fun c s => s.prepare c) c = c
  induction ps generalizing c with
  | nil => rfl
  | cons p ps ih =>
      rw [List.foldl_cons, ih]
      cases hw : p.wants with
      | false => rfl
      | true => simp [Frame.Context.request, Buffers.ofContext?_setFlag, Frame.Key.fragmentBuffers]

variable [CommandSink σ]

/-- In a frame the bundle of one task is prepared, and then every pass that takes effect binds its
buffers. -/
structure BindsCurrent (scene : Scene σ) (r : Task.Resolve) : Prop where
  prepared : scene.prepared.resolves = [r]
  executed : scene.runFrame.resolves = [r]
  prepares : ∃ made, scene.prepared.session.history = scene.session.history ++ made ∧
    ∀ m ∈ made, m.event.isStock = true
  executes : ∃ made, scene.runFrame.session.history = scene.prepared.session.history ++ made ∧
    ∀ m ∈ made, m.BoundTo r.bundle

section
variable [LawfulDevice σ] {scene : Scene σ} {r : Task.Resolve}

theorem Course.tied (course : scene.Course r) (h : r.bundle.Tied scene.session) :
    (r.prepare course.opened).1.bundle.Tied scene.prepared.session := by
  rw [course.prepared]
  apply Task.Resolve.prepare_tied
  refine Fragment.Bundle.Tied.alike ?_ course.opened_alike
  exact h.congr rfl rfl (ofContext?_openContext _ _ _)

theorem Course.serving (course : scene.Course r) (h : r.bundle.Tied scene.session)
    (down : scene.session.context.hasFlag .clearedFlag = false) :
    (r.prepare course.opened).1.bundle.Serving scene.runFrame.session ∧
      ∃ made, scene.runFrame.session.history = scene.prepared.session.history ++ made ∧
        ∀ m ∈ made, m.BoundTo (r.prepare course.opened).1.bundle := by
  have tied := (course.tied h).alike course.start_alike
  have start : (r.prepare course.opened).1.bundle.Serving course.start := by
    refine ⟨tied.consistent, tied.current, fun up => ?_⟩
    rw [course.clearedFlag_start down] at up
    cases up
  obtain ⟨finish, made, hmade, hbound⟩ := start.producers course.producers
  obtain ⟨last, made', hmade', hbound'⟩ :=
    (finish.alike (Session.alike_report _ _ _)).execute_resolve (s := announce "execute"
      (.resolve (r.prepare course.opened).1) course.finish) (r.prepare course.opened).1
  rw [course.session]
  refine ⟨last, made ++ made', ?_, fun m hm => ?_⟩
  · refine hmade'.trans ?_
    rw [← List.append_assoc, ← course.start_alike.history]
    exact congrArg (· ++ made') hmade
  · rcases List.mem_append.mp hm with hm | hm
    · exact hbound m hm
    · exact hbound' m hm

end

variable [LawfulDevice σ]

theorem undisturbed_tied : Undisturbed (σ := σ) fun bundle s => bundle.Tied s where
  clear h := ⟨h.sound, h.consistent.congr rfl rfl, fun _ hb => by cases hb⟩
  release {bundle s} h :=
    ⟨(bundle.release_stocks s).sound h.sound, h.consistent.release, h.current.release⟩
  disturb _ h := ⟨h.sound, h.consistent.congr rfl rfl, h.current.congr rfl rfl⟩

variable {scene : Scene (Faulty σ)}

theorem Between.tied_runFrame (h : scene.Between) (hs : scene.Bundles fun bundle s => bundle.Tied s) :
    scene.runFrame.Bundles fun bundle s => bundle.Tied s := by
  obtain ⟨r, one⟩ := List.length_eq_one_iff.mp h.one
  obtain ⟨course⟩ := h.formed.course one
  have tied := hs r (mem_tasks_of_resolves one)
  intro r' hr'
  have hr := eq_of_mem_tasks course.resolves hr'
  subst hr
  obtain ⟨serving, -⟩ := course.serving tied h.cleared
  exact ⟨course.device Device.registryKeeps_sound Device.commandsKeep_sound tied.sound,
    serving.consistent, serving.current⟩

theorem Between.bindsCurrent (h : scene.Between) (hs : scene.Bundles fun bundle s => bundle.Tied s) :
    ∃ r, scene.BindsCurrent r := by
  obtain ⟨r, one⟩ := List.length_eq_one_iff.mp h.one
  obtain ⟨course⟩ := h.formed.course one
  obtain ⟨-, -, alike, -, -⟩ := h.formed.prepared one
  obtain ⟨-, executes⟩ := course.serving (hs r (mem_tasks_of_resolves one)) h.cleared
  refine ⟨(r.prepare course.opened).1, ?_, course.resolves, h.safeFrame.prepares, executes⟩
  exact ((h.formed.congr alike).kinds_of_scheduled course.scheduled).2.2

/-- In every frame of a graph in which one task resolves, whatever its tasks are, whatever happened before
it, and whatever fails: the passes bind the buffers of the bundle as it is in that frame. -/
theorem bindsCurrent_of_moves (recipes : List Task.Recipe) (one : recipes.countP (·.isResolve) = 1)
    (d : σ) (sound : LawfulRegistry.Sound d) (moves : List Move) :
    ∃ r, (moves.foldl play (compose recipes { device := d })).BindsCurrent r := by
  have h := between_compose recipes d one
  have start : (compose recipes ({ device := d } : Faulty σ)).Bundles fun bundle s => bundle.Tied s :=
    bundles_compose recipes
      ⟨sound, ⟨fun _ => ⟨rfl, by simp [Session.events]⟩, by simp, by simp [Session.events]⟩,
        fun _ hb => by cases hb⟩
  exact (h.foldl_play moves).bindsCurrent
    (h.bundles_foldl_play undisturbed_tied (fun _ => Between.tied_runFrame) start moves)

/-- The buffers are given back, and the next ones cannot be made; what is left in the frame context is
dead. -/
theorem bindsCurrent_after_release :
    let recipes : List Task.Recipe := [.setup "targets" [], .resolve "resolve" {},
      .producer "glass" {} { write := fun _ => .done (.ok ()) }]
    let moves : List Move := [.frame, .release 1,
      .disturb fun _ call => if call = .allocate .depth then some (.allocationFailed .depth) else none,
      .frame]
    recipes.countP (·.isResolve) = 1 ∧ ∃ r,
      (moves.foldl play (compose recipes { device := Limited.ofLimits {} 8 })).BindsCurrent r :=
  ⟨rfl, bindsCurrent_of_moves _ rfl _ (fun id live => by simp [Limited.ofLimits] at live) _⟩

end Scene

end Transparency
