import Transparency.Proofs.Scene.Course
import Transparency.Proofs.Scene.Deeds
import Transparency.Proofs.Task.Entries

/-!
# What a frame is drawn to

Being prepared, the task that resolves takes over what the frame is drawn to, without clear values; being
executed, it draws to that. What it took over in an earlier frame is never drawn to again, as the task has
no pass, or nothing to do, where it takes nothing over.
-/

namespace Transparency
open Device (Registry CommandSink Recorder Faults Faulty)
open Transparency.Frame (Session Context Moment Event Value)

variable {σ : Type}

/-! ## What the task takes over, and what it draws to -/

namespace Task.Resolve
variable (r : Resolve) (s : Session σ)

section
variable [Registry σ]

theorem pass_of_ensurePass_error {e : Error} {t : Session σ} (he : r.ensurePass s = (.error e, t)) :
    r.pass = none := by
  unfold ensurePass at he
  split at he
  · cases he
  · rename_i unbuilt
    simpa using unbuilt

theorem targets_prepareBuffers :
    (r.prepareBuffers s).1.targets = (s.context.targets?.getD []).map Target.kept :=
  (settleSize_spec { r with targets := (s.context.targets?.getD []).map Target.kept } s).2.2.2.1

/-- Where the frame needs the task, the task takes over what the frame is drawn to, or it has no pass. -/
theorem targets_prepare (needed : r.isNeeded s.context = true) :
    ((r.prepare s).1 = r ∧ r.pass = none) ∨
      (r.prepare s).1.targets = (s.context.targets?.getD []).map Target.kept := by
  rw [r.prepare_eq s needed]
  rcases r.ensurePass_cases (unclear s) with ⟨e, he⟩ | ⟨p, t, he, ha⟩
  · rw [he]
    exact Or.inl ⟨rfl, r.pass_of_ensurePass_error _ he⟩
  · rw [he]
    refine Or.inr ((targets_prepareBuffers _ t).trans ?_)
    rw [ha.context]
    exact congrArg (fun ts => (ts.getD []).map Target.kept) (s.context.targets?_dropFlag .clearedFlag)

theorem settings_prepare : (r.prepare s).1.settings = r.settings := by
  cases hn : r.isNeeded s.context with
  | false => rw [(r.prepare_of_not_isNeeded s hn).1]
  | true =>
      rcases r.ensurePass_cases (unclear s) with ⟨e, he⟩ | ⟨p, t, he, ha⟩
      · rw [r.prepare_eq s hn, he]
      · obtain ⟨-, -, -, -, hs, -⟩ := r.prepare_of_pass s hn he ha
        exact hs

end

variable [CommandSink σ]

theorem drawPass_of_unbuilt (unbuilt : r.pass = none) : (r.drawPass s).history = s.history := by
  rw [drawPass, unbuilt]
  rfl

theorem drawPass_targets : ∃ made, (r.drawPass s).history = s.history ++ made ∧
    ∀ m ∈ made, ∀ draw, m.event.resolvedDraw? = some draw →
      draw.targets = r.targets ∧ r.pass.isSome = true := by
  cases built : r.pass.isSome with
  | false =>
      have hh := r.drawPass_of_unbuilt s (by simpa using built)
      exact ⟨[], by simp [hh], by simp⟩
  | true =>
      rcases r.drawPass_cases s with ⟨-, hh⟩ | ⟨pass, b, u, -, hd, he⟩
      · exact ⟨[], by simp [hh], by simp⟩
      · obtain ⟨-, -, -, hh⟩ := Session.of_absorb_ok hd
        refine ⟨[⟨.drew (r.resolveDraw pass b), u.device⟩,
          ⟨.resolved r.name (r.resolveDraw pass b), u.device⟩], ?_, fun m hm draw hdraw => ?_⟩
        · rw [he, Session.note, hh, List.append_assoc]
          rfl
        · simp only [List.mem_cons, List.not_mem_nil, or_false] at hm
          rcases hm with rfl | rfl
          · cases hdraw
          · cases hdraw
            exact ⟨rfl, rfl⟩

/-- Being executed, the task draws to nothing but the targets that it took over, and only if it has a pass
and the frame needs it. -/
theorem execute_targets : ∃ made, (r.execute s).history = s.history ++ made ∧
    ∀ m ∈ made, ∀ draw, m.event.resolvedDraw? = some draw →
      draw.targets = r.targets ∧ r.pass.isSome = true ∧ r.isNeeded s.context = true := by
  cases hr : s.context.hasFlag .requestFlag with
  | false => exact ⟨[], by simp [(r.execute_of_idle s hr).history], by simp⟩
  | true =>
      rw [r.execute_of_requested s hr]
      split
      · rename_i enabled
        obtain ⟨made, hh, hmade⟩ := r.drawPass_targets (takeDown s)
        refine ⟨made, hh, fun m hm draw hd => ?_⟩
        obtain ⟨ht, hp⟩ := hmade m hm draw hd
        exact ⟨ht, hp, by rw [isNeeded, enabled, hr]; rfl⟩
      · exact ⟨[], by rw [List.append_nil]; rfl, by simp⟩

end Task.Resolve

/-! ## No target is cleared by resolving -/

/-- The targets that the task took over have no clear value; tasks that are no probes take over none else. -/
def Task.KeepsTargets : Task → Prop
  | resolve r => ∀ t ∈ r.targets, t.clear = none
  | probe _ => False
  | _ => True

namespace Frame.Session
variable {s t : Session σ}

/-- No resolve so far cleared a target. -/
def KeptTargets (s : Session σ) : Prop :=
  ∀ m ∈ s.history, ∀ draw, m.event.resolvedDraw? = some draw → ∀ t ∈ draw.targets, t.clear = none

theorem KeptTargets.append (h : s.KeptTargets) {made : List (Moment σ)}
    (hh : t.history = s.history ++ made)
    (kept : ∀ m ∈ made, ∀ draw, m.event.resolvedDraw? = some draw → ∀ t ∈ draw.targets, t.clear = none) :
    t.KeptTargets := by
  intro m hm
  rw [hh] at hm
  rcases List.mem_append.mp hm with old | new
  · exact h m old
  · exact kept m new

theorem KeptTargets.of_not_resolve (h : s.KeptTargets) {made : List (Moment σ)}
    (hh : t.history = s.history ++ made) (quiet : ∀ m ∈ made, m.event.isResolve = false) :
    t.KeptTargets :=
  h.append hh fun m hm draw hd => by
    rw [Event.resolvedDraw?_of_not_isResolve (quiet m hm)] at hd
    cases hd

theorem KeptTargets.stocks [Registry σ] (h : s.KeptTargets) (hs : Stocks s t) : t.KeptTargets := by
  obtain ⟨made, hh, hmade⟩ := hs.history
  exact h.of_not_resolve hh fun m hm => (Event.of_isStock (hmade m hm)).2.2

end Frame.Session

theorem Target.clear_of_mem_kept {ts : List Target} : ∀ t ∈ ts.map Target.kept, t.clear = none := by
  intro t ht
  obtain ⟨t', -, rfl⟩ := List.mem_map.mp ht
  rfl

namespace Scene
variable [Registry σ] [CommandSink σ]

theorem lasting_keptTargets :
    Lasting (σ := σ) Task.KeepsTargets Session.KeptTargets where
  known _ := id
  alike ha h m hm := h m (ha.history ▸ hm)
  prepare {task s} hp hq := by
    cases task with
    | setup t => exact ⟨trivial, hq⟩
    | producer p => exact ⟨trivial, hq⟩
    | probe t => exact hp.elim
    | resolve r =>
        rw [Task.prepare_resolve]
        refine ⟨?_, hq.stocks (r.prepare_stocks s)⟩
        cases hn : r.isNeeded s.context with
        | false => rw [(r.prepare_of_not_isNeeded s hn).1]; exact hp
        | true =>
            rcases r.targets_prepare s hn with ⟨he, -⟩ | he
            · rw [he]; exact hp
            · simp only [Task.KeepsTargets, he]
              exact Target.clear_of_mem_kept
  execute {task s} hp hq := by
    cases task with
    | setup t => exact ⟨trivial, hq⟩
    | probe t => exact hp.elim
    | producer p =>
        obtain ⟨made, hh, hadds⟩ := p.execute_adds s
        exact ⟨trivial, hq.of_not_resolve hh fun m hm =>
          ((Session.Filled.of_adds hh hadds).quiet m hm).2⟩
    | resolve r =>
        obtain ⟨made, hh, hmade⟩ := r.execute_targets s
        refine ⟨hp, hq.append hh fun m hm draw hd => ?_⟩
        rw [(hmade m hm draw hd).1]
        exact hp
  release {task s} hp hq := by
    cases task with
    | resolve r => exact ⟨hp, hq.stocks (r.bundle.release_stocks s)⟩
    | _ => exact ⟨hp, hq⟩
  withWriter {task} _ hp := by cases task <;> exact hp
  withTargets {task} _ hp := by cases task <;> exact hp
  clear hq := hq
  disturb _ hq := hq

/-! ## A frame is drawn to its own targets -/

omit [Registry σ] in
theorem get?_round_producers {k : Frame.Key} (other : k ≠ .clearedFlag) (ps : List Task.Producer)
    (s : Session σ) :
    (Task.round executeTurn (ps.map .producer) s).2.context.get? k = s.context.get? k := by
  induction ps generalizing s with
  | nil => rfl
  | cons p ps ih =>
      rw [List.map_cons, Task.round, ih]
      exact p.get?_execute (announce "execute" (.producer p) s) other

/-- The entry that says what a frame is drawn to: that of the last task that tells the frame, or else the one
that is there already. -/
def targetsEntry (ss : List Task.Setup) (c : Context) : Option Value :=
  match ss.getLast? with
  | some task => some (.targets task.targets)
  | none => c.get? .targets

/-- The targets of an entry; an entry of the wrong type has none. -/
def listed : Option Value → List Target
  | some (.targets ts) => ts
  | _ => []

omit [Registry σ] [CommandSink σ] in
theorem getD_targets? (c : Context) : c.targets?.getD [] = listed (c.get? .targets) := by
  unfold Context.targets?
  generalize c.get? .targets = entry
  cases entry with
  | none => rfl
  | some value => cases value <;> rfl

omit [Registry σ] [CommandSink σ] in
theorem get?_openContext (ss : List Task.Setup) (ps : List Task.Producer) (c : Context) :
    (openContext ss ps c).get? .targets = targetsEntry ss c := by
  have setups : (ss.foldl (fun c s => s.prepare c) c).get? .targets = targetsEntry ss c := by
    rcases List.eq_nil_or_concat ss with rfl | ⟨front, last, rfl⟩
    · rfl
    · simp [targetsEntry, Task.Setup.prepare, Context.setTargets]
  rw [← setups, openContext]
  generalize ss.foldl (fun c s => s.prepare c) c = c
  induction ps generalizing c with
  | nil => rfl
  | cons p ps ih =>
      rw [List.foldl_cons, ih]
      exact p.get?_prepare c (by decide)

namespace Course
variable {scene : Scene σ} {r : Task.Resolve} (course : scene.Course r)
include course

theorem get?_opened :
    course.opened.context.get? .targets = targetsEntry scene.setups scene.session.context := by
  rw [course.opened_alike.context]
  exact get?_openContext _ _ _

theorem get?_prepared :
    scene.prepared.session.context.get? .targets = targetsEntry scene.setups scene.session.context := by
  rw [course.prepared, r.get?_prepare _ (by decide) (by decide), course.get?_opened]

theorem get?_runFrame :
    scene.runFrame.session.context.get? .targets = targetsEntry scene.setups scene.session.context := by
  have turn : scene.runFrame.session.context.get? .targets = course.finish.context.get? .targets := by
    rw [course.session]
    exact (r.prepare course.opened).1.get?_execute (announce "execute" _ course.finish) (by decide)
      (by decide)
  rw [turn, finish, get?_round_producers (by decide), course.start_alike.context, course.get?_prepared]

theorem draws_to_entry : ∃ made, scene.runFrame.session.history = scene.session.history ++ made ∧
    ∀ m ∈ made, ∀ draw, m.event.resolvedDraw? = some draw →
      draw.targets = (listed (targetsEntry scene.setups scene.session.context)).map Target.kept := by
  obtain ⟨stocked, hstocked, hstocks⟩ := (r.prepare_stocks course.opened).history
  obtain ⟨drawn, hdrawn, hdraws⟩ :=
    (r.prepare course.opened).1.execute_targets (announce "execute" (.resolve _) course.finish)
  refine ⟨stocked ++ (course.added ++ drawn), ?_, fun m hm draw hdraw => ?_⟩
  · have last : scene.runFrame.session.history = course.finish.history ++ drawn := by
      rw [course.session]
      exact hdrawn
    rw [last, course.filled.history, course.start_alike.history, course.prepared, hstocked,
      course.opened_alike.history]
    simp [Session.withContext]
  · simp only [List.mem_append] at hm
    rcases hm with hm | hm | hm
    · rw [Event.resolvedDraw?_of_not_isResolve (Event.of_isStock (hstocks m hm)).2.2] at hdraw
      cases hdraw
    · rw [Event.resolvedDraw?_of_not_isResolve (course.filled.quiet m hm).2] at hdraw
      cases hdraw
    · obtain ⟨ht, built, needed⟩ := hdraws m hm draw hdraw
      -- it was needed when it was prepared as well, so that its targets are those of the frame
      have opened : r.isNeeded course.opened.context = true := by
        rw [Task.Resolve.isNeeded, ← course.requestFlag_finish, ← r.settings_prepare course.opened]
        exact needed
      rcases r.targets_prepare course.opened opened with ⟨he, unbuilt⟩ | he
      · rw [he, unbuilt] at built
        cases built
      · rw [ht, he, getD_targets?, course.get?_opened]

end Course

/-- Whatever is called in whatever order, and whatever of it fails, no resolve clears a target. In every frame
of a graph in which one task resolves, it draws to what the frame is told at last, or to what the frame
context says if it is not told; the context says the same after the frame. -/
theorem draws_to_published (recipes : List Task.Recipe) (d : σ) (deeds : List Deed) :
    let scene := deeds.foldl act (compose recipes { device := d })
    scene.session.KeptTargets ∧
    (recipes.countP (·.isResolve) = 1 →
      let entry := targetsEntry scene.setups scene.session.context
      (∃ made, scene.runFrame.session.history = scene.session.history ++ made ∧
        ∀ m ∈ made, ∀ draw, m.event.resolvedDraw? = some draw →
          draw.targets = (listed entry).map Target.kept) ∧
      scene.prepared.session.context.get? .targets = entry ∧
      scene.runFrame.session.context.get? .targets = entry) := by
  intro scene
  have start : (compose recipes ({ device := d } : Faulty σ)).Everywhere Task.KeepsTargets
      Session.KeptTargets := by
    refine .compose (fun recipe _ => ?_) fun m hm => by cases hm
    cases recipe with
    | resolve name settings => exact fun t ht => by cases ht
    | _ => trivial
  refine ⟨(start.foldl_act lasting_keptTargets deeds fun _ _ _ => id).session, fun one => ?_⟩
  have alike := (formed_compose recipes ({ device := d } : Faulty σ)).foldl_act deeds
  obtain ⟨r, hr⟩ := List.length_eq_one_iff.mp (alike.one ((resolves_compose recipes _).trans one))
  obtain ⟨course⟩ := ((formed_compose recipes _).congr alike).course hr
  exact ⟨course.draws_to_entry, course.get?_prepared, course.get?_runFrame⟩

/-- A target of one pixel that is cleared to black. -/
def blackPixel : Target :=
  { name := "color", id := ⟨1, 0⟩, width := 1, height := 1, format := ⟨"Rgba16Float"⟩
    clear := some ⟨0, 0, 0, 1⟩ }

/-- Tasks that draw glass on that target. -/
def glassOnPixel : List Task.Recipe :=
  [.setup "targets" [blackPixel], .resolve "resolve" {},
    .producer "glass" {} { write := fun _ => .done (.ok ()) }]

/-- A frame in which no buffer can be made, then none that fails. -/
def failedAndUndisturbed : List Deed :=
  [.move (.disturb (Faults.plan { allocate := [.data] })), .move .frame, .move (.disturb (Faults.plan {})),
    .prepare 0, .execute 1]

/-- A scene between frames, when its task that resolves took targets over already. -/
def pixelScene : Scene (Faulty Recorder) :=
  failedAndUndisturbed.foldl act (compose glassOnPixel { device := {} })

/-- The next frame is drawn in full. -/
theorem draws_to_blackPixel : glassOnPixel.countP (·.isResolve) = 1 ∧
    (∃ m ∈ pixelScene.runFrame.session.history, ∃ draw, m.event.resolvedDraw? = some draw) ∧
    ∃ made, pixelScene.runFrame.session.history = pixelScene.session.history ++ made ∧
      ∀ m ∈ made, ∀ draw, m.event.resolvedDraw? = some draw → draw.targets = [blackPixel.kept] := by
  have drawn : pixelScene.runFrame.session.history.any (·.event.resolvedDraw?.isSome) = true := by rfl
  have entry : listed (targetsEntry pixelScene.setups pixelScene.session.context) = [blackPixel] := by rfl
  obtain ⟨m, hm, hd⟩ := List.any_eq_true.mp drawn
  obtain ⟨-, published⟩ := draws_to_published glassOnPixel ({} : Recorder) failedAndUndisturbed
  obtain ⟨⟨made, hh, hmade⟩, -⟩ := published rfl
  refine ⟨rfl, ⟨m, hm, Option.isSome_iff_exists.mp hd⟩, made, hh, fun m hm draw hd => ?_⟩
  exact (hmade m hm draw hd).trans (congrArg (List.map Target.kept) entry)

end Scene

end Transparency
