import Transparency.Proofs.Fragment.Sharing
import Transparency.Proofs.Scene.Deeds

/-!
# The buffers cover the target

If nothing goes wrong while a task that resolves is prepared, its buffers have room for the target that the frame
draws to, as far as signed words reach, and the shaders know of a screen at least as large. It does not matter
what other tasks keep their buffers on the same device.
-/

namespace Transparency
open Device (Registry CommandSink LawfulRegistry LawfulDevice Recorder Faulty)
open Fragment (Bundle Buffers Minds)
open Transparency.Frame (Session Context Event)
open Transparency.Frame.Session (Alike)

variable {σ : Type}

/-! ## What is covered -/

/-- The buffers have room for a screen of a width and a height, and the shaders were told of no smaller one. -/
structure Fragment.Bundle.Covers [Registry σ] (bundle : Bundle) (width height : Nat) (s : Session σ) : Prop where
  wide : width ≤ bundle.size.width.toInt
  high : height ≤ bundle.size.height.toInt
  buffers : ∃ b, bundle.buffers = some b ∧ (∃ n, s.room b.counter = some n ∧ width * height + 1 ≤ n) ∧
    Fragment.told b.uniforms s.events = if bundle.size = {} then none else some bundle.size.bytes

theorem Fragment.Bundle.Roomy.covers [Registry σ] {bundle : Bundle} {s : Session σ} {b : Buffers}
    {width height : Nat} (h : bundle.Roomy s) (hb : bundle.buffers = some b)
    (wide : width ≤ bundle.size.width.toInt) (high : height ≤ bundle.size.height.toInt) :
    bundle.Covers width height s := by
  obtain ⟨n, hn, room⟩ := (h.buffers b hb).counters
  refine ⟨wide, high, b, hb, ⟨n, hn, Nat.le_trans (Nat.add_le_add_right ?_ 1) room⟩, (h.buffers b hb).told⟩
  refine Nat.mul_le_mul ?_ ?_
  · rw [Size.columns]; omega
  · rw [Size.rows]; omega

namespace Task

/-- The width of a target, as far as signed words reach. -/
theorem Resolve.width_targetSize (target : Target) :
    (targetSize target).width.toInt = min target.width.toNat Size.maxAxis :=
  Int32.toInt_ofNat_of_lt (by simp only [Size.maxAxis]; omega)

theorem Resolve.height_targetSize (target : Target) :
    (targetSize target).height.toInt = min target.height.toNat Size.maxAxis :=
  Int32.toInt_ofNat_of_lt (by simp only [Size.maxAxis]; omega)

/-! ## A task that is prepared without an error -/

namespace Resolve
variable [Registry σ] {s : Session σ} {r : Resolve}

theorem sizeFor_of_targets {c : Context} {first : Target} {rest : List Target}
    (targets : c.targets? = some (first :: rest)) : r.sizeFor c = targetSize first := by
  simp only [sizeFor, targets, Option.getD_some, List.map_cons, wantedSize]
  rfl

/-- If nothing is logged that went wrong, there are buffers for the size that the context asks for. -/
theorem prepareBuffers_of_clean (clean : ∀ line ∈ (r.prepareBuffers s).2.log, line.level ≠ .error) :
    ∃ b, (r.prepareBuffers s).1.bundle.buffers = some b ∧
      (r.prepareBuffers s).1.bundle.size.covers (r.sizeFor s.context) = true := by
  obtain ⟨hb, hw, -⟩ := settleSize_spec { r with targets := (s.context.targets?.getD []).map Target.kept } s
  simp only [prepareBuffers, hb, hw] at clean ⊢
  split at clean <;> rename_i he
  · exact Bundle.covers_of_prepare he
  · exact absurd rfl (clean _ (List.mem_append_right _ (List.mem_singleton_self _)))

theorem prepare_of_clean (needed : r.isNeeded s.context = true)
    (clean : ∀ line ∈ (r.prepare s).2.log, line.level ≠ .error) :
    ∃ b, (r.prepare s).1.bundle.buffers = some b ∧
      (r.prepare s).1.bundle.size.covers (r.sizeFor s.context) = true := by
  rw [r.prepare_eq s needed] at clean ⊢
  rcases r.ensurePass_cases (unclear s) with ⟨e, he⟩ | ⟨p, t, he, ha⟩
  · rw [he] at clean
    exact absurd rfl (clean _ (List.mem_append_right _ (List.mem_singleton_self _)))
  · rw [he] at clean ⊢
    obtain ⟨b, hb, covers⟩ := prepareBuffers_of_clean clean
    rw [ha.context, unclear, Session.withContext, sizeFor_dropFlag] at covers
    exact ⟨b, hb, covers⟩

end Resolve

/-! ## What a task does with its bundle -/

/-- The bundle that a task keeps, if it keeps one. -/
def bundle : Task → Bundle
  | resolve r => r.bundle
  | _ => {}

theorem bundle_withWriter (task : Task) (writer : Fragment.Writer) :
    (task.withWriter writer).bundle = task.bundle := by
  cases task <;> rfl

theorem bundle_withTargets (task : Task) (targets : List Target) :
    (task.withTargets targets).bundle = task.bundle := by
  cases task <;> rfl

section
variable [Registry σ] {s t : Session σ} {task : Task}

/-- Commands and notes concern no bundle. -/
theorem minds_of_history {bundle : Bundle} {made : List (Frame.Moment σ)} (hr : t.room = s.room)
    (hh : t.history = s.history ++ made) (quiet : ∀ m ∈ made, m.event.isStock = false) :
    Minds bundle s bundle t :=
  .of_quiet hr (by rw [Session.events, hh, List.map_append, Session.events])
    (by simpa only [List.forall_mem_map] using quiet)

variable [LawfulRegistry σ]

theorem Resolve.minds_prepare (r : Resolve) (sound : s.Sound) :
    Minds r.bundle s (r.prepare s).1.bundle (r.prepare s).2 := by
  cases needed : r.isNeeded s.context with
  | false =>
      obtain ⟨hr, ha⟩ := r.prepare_of_not_isNeeded s needed
      rw [hr]
      exact .of_alike ha
  | true =>
      have opened : Minds r.bundle s r.bundle (unclear s) := .of_eq rfl rfl
      rcases r.prepare_of_isNeeded s needed with ⟨hr, ha⟩ | ⟨u, hu, hb, ha⟩
      · rw [hr]
        exact opened.trans (.of_alike ha)
      · rw [hb]
        have start : Minds r.bundle s r.bundle u := opened.trans (.of_alike hu)
        exact (start.trans (r.bundle.minds_prepare (hu.sound sound) _)).trans (.of_alike ha)

theorem minds_prepare (known : task.kind.2 = false) (sound : s.Sound) :
    Minds task.bundle s (task.prepare s).1.bundle (task.prepare s).2 := by
  cases task with
  | setup t => exact .of_eq rfl rfl
  | producer p => exact .of_eq rfl rfl
  | resolve r => exact r.minds_prepare sound
  | probe t => cases known

theorem minds_release (task : Task) (s : Session σ) :
    Minds task.bundle s (task.release s).1.bundle (task.release s).2 := by
  cases task with
  | resolve r => exact r.bundle.minds_release s
  | _ => exact .of_eq rfl rfl

end

theorem minds_execute [Registry σ] [CommandSink σ] [LawfulDevice σ] {s : Session σ} {task : Task}
    (known : task.kind.2 = false) : Minds task.bundle s (task.execute s).1.bundle (task.execute s).2 := by
  cases task with
  | setup t => exact .of_eq rfl rfl
  | producer p =>
      obtain ⟨made, hh, hadds⟩ := p.execute_adds s
      exact minds_of_history (p.room_execute s) hh fun m hm => ((Session.Filled.of_adds hh hadds).quiet m hm).1
  | resolve r =>
      obtain ⟨made, hh, hadds⟩ := r.execute_adds s
      refine minds_of_history (r.room_execute s) hh ?_
      cases hadds <;> simp [Event.isStock]
  | probe t => cases known

end Task

/-! ## Tasks that share a device -/

namespace Scene

/-- All buffers have room for the size that their bundle records, and none belongs to two tasks. -/
structure Shared [Registry σ] [LawfulRegistry σ] (scene : Scene (Faulty σ)) : Prop
    extends scene.Everywhere (fun task => task.kind.2 = false) Session.Sound where
  roomy : ∀ task ∈ scene.tasks, task.bundle.Roomy scene.session
  apart : ∀ (i j : Nat) (a b : Task), i ≠ j → scene.tasks[i]? = some a → scene.tasks[j]? = some b →
    List.Disjoint a.bundle.ids b.bundle.ids

namespace Shared
variable [Registry σ] [LawfulRegistry σ] {scene scene' : Scene (Faulty σ)}

theorem congr (h : scene.Shared) (ht : scene'.tasks = scene.tasks) (sound : scene'.session.Sound)
    (hr : scene'.session.room = scene.session.room) (he : scene'.session.events = scene.session.events) :
    scene'.Shared where
  tasks := by rw [ht]; exact h.tasks
  session := sound
  roomy task hmem := (Minds.of_eq hr he).roomy (h.roomy task (ht ▸ hmem))
  apart := by rw [ht]; exact h.apart

/-- A task that minds its own bundle leaves the bundles of the others what they were. -/
theorem step {act : Task → Session (Faulty σ) → Task × Session (Faulty σ)} (h : scene.Shared)
    (keep : ∀ {task s}, task.kind.2 = false → s.Sound →
      (act task s).1.kind.2 = false ∧ (act task s).2.Sound)
    (minds : ∀ {task s}, task.kind.2 = false → s.Sound →
      Minds task.bundle s (act task s).1.bundle (act task s).2)
    (index : Nat) : (scene.step index act).Shared := by
  have everywhere := h.toEverywhere.step keep index
  rcases scene.step_cases index act with he | ⟨task, ht, he⟩
  · rw [he]; exact h
  · have mem : task ∈ scene.tasks := List.mem_of_getElem? ht
    have own := minds (h.tasks task mem) h.session
    rw [he] at everywhere ⊢
    generalize act task scene.session = acted at own everywhere
    have others {j : Nat} {a : Task} (hj : index ≠ j) (ha : (scene.tasks.set index acted.1)[j]? = some a) :
        a.bundle.Roomy scene.session ∧ List.Disjoint a.bundle.ids task.bundle.ids := by
      rw [List.getElem?_set_ne hj] at ha
      exact ⟨h.roomy a (List.mem_of_getElem? ha), h.apart j index a task hj.symm ha ht⟩
    have acting {a : Task} (ha : (scene.tasks.set index acted.1)[index]? = some a) : acted.1 = a := by
      rw [List.getElem?_set_self (List.getElem?_eq_some_iff.mp ht).1] at ha
      exact Option.some.inj ha
    refine { everywhere with roomy := fun a hmem => ?_, apart := fun i j a b hij ha hb => ?_ }
    · obtain ⟨j, ha⟩ := List.mem_iff_getElem?.mp hmem
      by_cases hj : index = j
      · subst hj
        rw [← acting ha]
        exact own.roomy (h.roomy task mem)
      · obtain ⟨roomy, apart⟩ := others hj ha
        exact roomy.spared own.spares apart
    · by_cases hi : index = i
      · subst hi
        obtain ⟨roomy, apart⟩ := others hij hb
        rw [← acting ha]
        exact fun _ mine theirs => own.apart roomy apart theirs mine
      · obtain ⟨roomy, apart⟩ := others hi ha
        by_cases hj : index = j
        · subst hj
          rw [← acting hb]
          exact own.apart roomy apart
        · rw [List.getElem?_set_ne hi] at ha
          rw [List.getElem?_set_ne hj] at hb
          exact h.apart i j a b hij ha hb

theorem edit {change : Task → Task} (h : scene.Shared) (known : ∀ task, (change task).kind = task.kind)
    (same : ∀ task, (change task).bundle = task.bundle) (index : Nat) : (scene.edit index change).Shared :=
  show (scene.step index fun task s => (change task, s)).Shared from
    h.step (fun hk hs => ⟨by rw [known]; exact hk, hs⟩)
      (fun _ _ => by rw [same]; exact .of_eq rfl rfl) index

end Shared

variable [Registry σ] [CommandSink σ] [LawfulDevice σ]

theorem enduring_shared : Enduring (σ := σ) Shared where
  known h _ hmem := Bool.noConfusion (h.tasks _ hmem)
  congr h ht ha := h.congr ht (ha.sound h.session) ha.room ha.events
  prepare index h := h.step lasting_sound.prepare Task.minds_prepare index
  execute index h := h.step lasting_sound.execute (fun known _ => Task.minds_execute known) index
  release index h := h.step lasting_sound.release (fun _ _ => Task.minds_release _ _) index
  employ index writer h := h.edit (·.kind_withWriter writer) (·.bundle_withWriter writer) index
  retarget index targets h := h.edit (·.kind_withTargets targets) (·.bundle_withTargets targets) index
  clear h := h.congr rfl h.session rfl rfl
  disturb _ h := h.congr rfl h.session rfl rfl

theorem shared_of_deeds {d : σ} (sound : LawfulRegistry.Sound d) (recipes : List Task.Recipe)
    (deeds : List Deed) : (deeds.foldl act (compose recipes { device := d })).Shared := by
  have new : ∀ task ∈ (compose recipes ({ device := d } : Faulty σ)).tasks, task.bundle = {} := by
    rw [compose_eq]
    intro task hmem
    obtain ⟨recipe, -, rfl⟩ := List.mem_map.mp hmem
    cases recipe <;> rfl
  have start : (compose recipes ({ device := d } : Faulty σ)).Shared :=
    { everywhere_sound_compose recipes sound with
      roomy := fun task hmem => by rw [new task hmem]; exact Fragment.Bundle.roomy_empty _
      apart := fun i j a b _ ha _ => by
        rw [new a (List.mem_of_getElem? ha)]
        exact List.disjoint_nil_left _ }
  exact enduring_shared.foldl_act start deeds fun _ _ _ hs => hs.congr rfl hs.session rfl rfl

/-! ## The law -/

/-- Whatever tasks were called on a device before, in whatever order, and whatever failed: if a task that resolves
is switched on and asked for, is told of a target, and logs no error while it is prepared, then its buffers cover
that target, as far as signed words reach. -/
theorem target_covered {d : σ} (sound : LawfulRegistry.Sound d) (recipes : List Task.Recipe)
    (deeds : List Deed) (r : Task.Resolve) (c : Context) (first : Target) (rest : List Target) :
    let scene := deeds.foldl act (compose recipes ({ device := d } : Faulty σ))
    -- the log starts empty, so that all its lines are of this call
    let s : Session (Faulty σ) := { scene.session with context := c, log := [] }
    r ∈ scene.resolves → r.settings.enabled = true → c.hasFlag .requestFlag = true →
    c.targets? = some (first :: rest) → (∀ line ∈ (r.prepare s).2.log, line.level ≠ .error) →
    (r.prepare s).1.bundle.Covers (min first.width.toNat Size.maxAxis) (min first.height.toNat Size.maxAxis)
      (r.prepare s).2 := by
  intro scene s hr enabled asked targets clean
  have shared : scene.Shared := shared_of_deeds sound recipes deeds
  have roomy : r.bundle.Roomy scene.session := shared.roomy (.resolve r) (mem_resolves.mp hr)
  have opened : Minds r.bundle scene.session r.bundle s := .of_eq rfl rfl
  have prepared : Minds r.bundle s (r.prepare s).1.bundle (r.prepare s).2 := r.minds_prepare shared.session
  have needed : r.isNeeded s.context = true := by rw [Task.Resolve.isNeeded, enabled, asked]; rfl
  obtain ⟨b, hb, covers⟩ := Task.Resolve.prepare_of_clean needed clean
  rw [Task.Resolve.sizeFor_of_targets targets, Size.covers_iff, Task.Resolve.width_targetSize,
    Task.Resolve.height_targetSize] at covers
  exact ((opened.trans prepared).roomy roomy).covers hb covers.1 covers.2

/-- A target that is wider than signed words reach. -/
def wideTarget : Target :=
  { name := "color", id := { label := 1 }, width := 4294967295, height := 1, format := ⟨"Rgba16Float"⟩ }

/-- A context in which the buffers are asked for, to draw to that target. -/
def wideContext : Context := (Context.setTargets .empty [wideTarget]).request

/-- Two tasks that resolve on one device. Both were asked for the buffers, and one gave them back. -/
def sideBySide : Scene (Faulty Recorder) :=
  [Deed.present wideContext, .prepare 0, .execute 0, .present wideContext, .prepare 1,
    .move (.release 0)].foldl act (compose [.resolve "resolve" {}, .resolve "overlay" {}] { device := {} })

/-- Each of them covers what signed words reach of the target. -/
theorem wide_target_covered_side_by_side : sideBySide.resolves.length = 2 ∧ ∀ r ∈ sideBySide.resolves,
    let once := r.prepare { sideBySide.session with context := wideContext, log := [] }
    once.1.bundle.Covers 2147483647 1 once.2 := by
  have enabled : sideBySide.resolves.all (·.settings.enabled) = true := by rfl
  have clean : sideBySide.resolves.all (fun r => (r.prepare { sideBySide.session with
      context := wideContext, log := [] }).2.log.all (·.level ≠ .error)) = true := by decide +kernel
  refine ⟨rfl, fun r hr => target_covered (fun id live => by cases live) _ _ r wideContext wideTarget [] hr
    (List.all_eq_true.mp enabled r hr) rfl rfl fun line hl => ?_⟩
  exact of_decide_eq_true (List.all_eq_true.mp (List.all_eq_true.mp clean r hr) line hl)

/-- The rest of the target is not covered, and nothing is logged about it. -/
theorem wide_target_not_covered :
    let scene := compose [.resolve "resolve" {}] ({ device := {} } : Faulty Recorder)
    let s : Session (Faulty Recorder) := { scene.session with context := wideContext, log := [] }
    ∃ r ∈ scene.resolves, r.settings.enabled = true ∧ wideContext.hasFlag .requestFlag = true ∧
      wideContext.targets? = some [wideTarget] ∧ (∀ line ∈ (r.prepare s).2.log, line.level ≠ .error) ∧
      (r.prepare s).1.bundle.size.width.toInt < wideTarget.width.toNat ∧
      ∃ b, (r.prepare s).1.bundle.buffers = some b ∧ ∃ n, (r.prepare s).2.room b.counter = some n ∧
        n < wideTarget.width.toNat * wideTarget.height.toNat + 1 := by
  refine ⟨{ name := "resolve" }, mem_resolves.mpr (List.mem_singleton_self _), rfl, rfl, rfl, ?_, ?_,
    _, rfl, _, rfl, ?_⟩
  · decide +kernel
  · decide +kernel
  · decide

end Scene

end Transparency
