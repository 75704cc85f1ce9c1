import Transparency.Proofs.Scene.Deeds
import Transparency.Proofs.Task.Entries

/-!
# Resolving that is switched off

Where the task that resolves is disabled, or the device cannot do what resolving needs, the other tasks ask for
the buffers in every frame, and nothing ever comes of it.
-/

namespace Transparency
open Device (Registry CommandSink Recorder Features Faulty FaultPlan)
open Fragment (Buffers)
open Transparency.Frame (Session Context Key)

variable {σ : Type}

/-- There is nothing in the context where the fragment buffers belong. -/
def Frame.Context.Bare (c : Context) : Prop := ∀ k ∈ Key.fragmentBuffers, c.get? k = none

theorem Frame.Context.Bare.ofContext? {c : Context} (bare : c.Bare) : Buffers.ofContext? c = none := by
  have counter : c.buffer? .counterBuffer = none := by rw [buffer?, bare .counterBuffer (by decide)]
  rw [Buffers.ofContext?, counter]
  rfl

/-- A change of any other entry leaves a context bare. -/
theorem Frame.Context.Bare.change {c c' : Context} (bare : c.Bare) {key : Key}
    (other : key ∉ Key.fragmentBuffers) (same : ∀ k, k ≠ key → c'.get? k = c.get? k) : c'.Bare :=
  fun k hk => (same k fun he => other (he ▸ hk)).trans (bare k hk)

/-- No buffer was ever made for the task, and no writer was called; the task that resolves is switched off, or
the device lacks the feature that it needs. -/
def Task.Dormant (features : Features) : Task → Prop
  | setup _ => True
  | producer p => p.writes = 0
  | resolve r => r.bundle = {} ∧ r.pass = none ∧
      (r.settings.enabled = true → features.fragmentStorage = false)
  | probe _ => False

/-- Nothing was asked of the device, nothing took effect, and no buffer is in the context. -/
structure Frame.Session.Untouched (d : σ) (s : Session (Faulty σ)) : Prop where
  device : s.device.device = d
  calls : s.device.calls = 0
  history : s.history = []
  bare : s.context.Bare

namespace Frame.Session.Untouched
variable {d : σ} {s t : Session (Faulty σ)}

theorem alike (h : s.Untouched d) (ha : Session.Alike s t) : t.Untouched d :=
  ⟨by rw [ha.device, h.device], by rw [ha.device, h.calls], by rw [ha.history, h.history],
    by rw [ha.context]; exact h.bare⟩

theorem withContext (h : s.Untouched d) {c : Context} (bare : c.Bare) :
    (s.withContext c).Untouched d := ⟨h.device, h.calls, h.history, bare⟩

theorem dropFlag (h : s.Untouched d) {k : Key} (other : k ∉ Key.fragmentBuffers) :
    (s.withContext (s.context.dropFlag k)).Untouched d :=
  h.withContext (h.bare.change other fun _ => s.context.get?_dropFlag_of_ne)

end Frame.Session.Untouched

/-! ## The turns of the tasks -/

namespace Task
variable {features : Features} {d : σ} {s : Session (Faulty σ)}

theorem Producer.execute_of_bare [CommandSink σ] (p : Producer) {s : Session σ} (bare : s.context.Bare) :
    (p.execute s).1 = p ∧ Session.Alike s (p.execute s).2 := by
  cases asked : p.requested with
  | false => exact p.execute_of_idle s asked
  | true =>
      rw [execute, asked, bare.ofContext?]
      exact ⟨rfl, Session.alike_fail _ _ _⟩

theorem Resolve.prepare_of_dormant [Registry σ] {r : Resolve} (dormant : (resolve r).Dormant features)
    (h : s.Untouched d) (hd : Registry.features d = features) :
    (r.prepare s).1 = r ∧ (r.prepare s).2.Untouched d := by
  obtain ⟨-, unbuilt, off⟩ := dormant
  cases hn : r.isNeeded s.context with
  | false =>
      obtain ⟨he, ha⟩ := r.prepare_of_not_isNeeded s hn
      exact ⟨he, h.alike ha⟩
  | true =>
      -- it is switched on, so that the device does not have the feature, and no pass can be built
      have lacking := off (by rw [isNeeded, Bool.and_eq_true] at hn; exact hn.1)
      have hf : Registry.features (unclear s).device = features :=
        (congrArg Registry.features h.device).trans hd
      have failed : r.ensurePass (unclear s) =
          (.error (.unsupported "fragment storage buffers are not available"), unclear s) := by
        rw [ensurePass, unbuilt, hf, lacking]
        rfl
      rw [r.prepare_eq s hn, failed]
      exact ⟨rfl, (h.dropFlag (by decide)).alike (Session.alike_fail _ _ _)⟩

theorem Resolve.execute_of_dormant [CommandSink σ] {r : Resolve} (unbuilt : r.pass = none)
    (h : s.Untouched d) : (r.execute s).Untouched d := by
  have down : (takeDown s).Untouched d :=
    (h.dropFlag (k := .requestFlag) (by decide)).dropFlag (k := .clearedFlag) (by decide)
  cases hr : s.context.hasFlag .requestFlag with
  | false => exact h.alike (r.execute_of_idle s hr)
  | true =>
      rw [r.execute_of_requested s hr]
      split
      · rw [drawPass, unbuilt]
        exact down.alike (Session.alike_fail _ _ _)
      · exact down

end Task

namespace Scene
variable {features : Features}

theorem lasting_dormant [Registry σ] [CommandSink σ] {d : σ} (hd : Registry.features d = features) :
    Lasting (Task.Dormant features) (Session.Untouched d) where
  known _ := id
  alike ha h := h.alike ha
  prepare {task s} hp hq := by
    cases task with
    | probe t => exact hp.elim
    | setup t =>
        have bare := hq.bare.change (by decide) fun _ => t.get?_prepare s.context
        exact ⟨trivial, hq.withContext bare⟩
    | producer p =>
        have bare := hq.bare.change (by decide) fun _ => p.get?_prepare s.context
        exact ⟨hp, hq.withContext bare⟩
    | resolve r =>
        obtain ⟨he, h⟩ := Task.Resolve.prepare_of_dormant hp hq hd
        rw [Task.prepare_resolve, he]
        exact ⟨hp, h⟩
  execute {task s} hp hq := by
    cases task with
    | probe t => exact hp.elim
    | setup t => exact ⟨trivial, hq⟩
    | producer p =>
        obtain ⟨he, ha⟩ := p.execute_of_bare hq.bare
        rw [Task.execute_producer, he]
        exact ⟨hp, hq.alike ha⟩
    | resolve r => exact ⟨hp, Task.Resolve.execute_of_dormant hp.2.1 hq⟩
  release {task s} hp hq := by
    cases task with
    | resolve r =>
        -- there is nothing to give back
        obtain ⟨bundle, rest⟩ := hp
        have nothing : r.bundle.release s = ({}, s) := by rw [bundle]; rfl
        simp only [Task.release, Task.Resolve.release, nothing]
        exact ⟨⟨rfl, rest⟩, hq⟩
    | _ => exact ⟨hp, hq⟩
  withWriter {task} _ hp := by cases task <;> exact hp
  withTargets {task} _ hp := by cases task <;> exact hp
  clear hq := hq.withContext fun _ _ => rfl
  disturb _ hq := ⟨hq.device, hq.calls, hq.history, hq.bare⟩

/-- A scene in which nothing came of anything. -/
structure Dormant (scene : Scene (Faulty Recorder)) : Prop where
  operations : scene.session.device.device.operations = []
  calls : scene.session.device.calls = 0
  history : scene.session.history = []
  bundle : ∀ r, Task.resolve r ∈ scene.tasks → r.bundle = {}
  writes : ∀ p, Task.producer p ∈ scene.tasks → p.writes = 0
  unpublished : ∀ k ∈ Key.fragmentBuffers, scene.session.context.get? k = none

/-- Where resolving is switched off, or the device does not have the feature that it needs, the device records
nothing, nobody makes or publishes a buffer, and no writer is called, whatever is called in whatever order, as
long as nobody else puts buffers into the context. Between frames no flag is up. -/
theorem dormant_of_deeds (recipes : List Task.Recipe) (one : recipes.countP (·.isResolve) = 1)
    (features : Features) (refusing : Bool)
    (off : features.fragmentStorage = false ∨
      ∀ name settings, Task.Recipe.resolve name settings ∈ recipes → settings.enabled = false) :
    let start := compose recipes ({ device := { features, refusing } } : Faulty Recorder)
    (∀ deeds : List Deed, (∀ c, Deed.present c ∈ deeds → c.Bare) → (deeds.foldl act start).Dormant) ∧
    ∀ moves : List Move,
      (moves.foldl play start).session.context.hasFlag .requestFlag = false ∧
      (moves.foldl play start).session.context.hasFlag .clearedFlag = false := by
  intro start
  refine ⟨fun deeds bare => ?_, fun moves => ?_⟩
  · have fresh : start.Everywhere (Task.Dormant features)
        (Session.Untouched ({ features, refusing } : Recorder)) := by
      refine .compose (fun recipe hr => ?_) ⟨rfl, rfl, rfl, fun _ _ => rfl⟩
      cases recipe with
      | setup name targets => trivial
      | producer name settings writer => rfl
      | resolve name settings =>
          refine ⟨rfl, rfl, fun enabled => off.resolve_right fun disabled => ?_⟩
          cases (disabled name settings hr).symm.trans enabled
    obtain ⟨tasks, session⟩ := fresh.foldl_act (lasting_dormant rfl) deeds
      fun c hc s hs => hs.withContext (bare c hc)
    exact ⟨congrArg Recorder.operations session.device, session.calls, session.history,
      fun r hr => (tasks _ hr).1, fun p hp => tasks _ hp, session.bare⟩
  · have between := (between_compose recipes ({ features, refusing } : Recorder) one).foldl_play moves
    exact ⟨between.request, between.cleared⟩

/-- Two tasks that add fragments, and one that would resolve them. -/
def glassAndSmoke : List Task.Recipe :=
  [.producer "glass" {} { write := fun b => .fill b.counter 7 .done }, .resolve "resolve" {},
    .producer "smoke" {} { write := fun _ => .done (.error (.missingPass "smoke")) }]

/-- Glass that adds fragments, while resolving is switched off. -/
def unresolvedGlass : List Task.Recipe :=
  [.producer "glass" {} { write := fun b => .fill b.counter 7 .done }, .resolve "resolve" { enabled := false }]

/-- On a device without the feature both tasks ask for the buffers in every frame; on a device with it, glass asks
for them in vain while resolving is switched off. -/
theorem dormant_without_feature :
    let start := compose glassAndSmoke ({ device := { features := ⟨false⟩ } } : Faulty Recorder)
    let start' := compose unresolvedGlass ({ device := { features := ⟨true⟩ } } : Faulty Recorder)
    let deeds : List Deed := [.move .frame, .move .clear, .prepare 0, .prepare 1, .execute 2, .move .frame]
    glassAndSmoke.countP (·.isResolve) = 1 ∧
    start.prepared.session.context.hasFlag .requestFlag = true ∧
    (deeds.foldl act start).Dormant ∧
    ([Move.frame, .frame].foldl play start).session.context.hasFlag .requestFlag = false ∧
    start'.prepared.session.context.hasFlag .requestFlag = true ∧
    (deeds.foldl act start').Dormant := by
  have dormant := dormant_of_deeds glassAndSmoke rfl ⟨false⟩ false (Or.inl rfl)
  have switchedOff : ∀ name settings, Task.Recipe.resolve name settings ∈ unresolvedGlass →
      settings.enabled = false := by simp [unresolvedGlass]
  have dormant' := dormant_of_deeds unresolvedGlass rfl ⟨true⟩ false (Or.inr switchedOff)
  exact ⟨rfl, rfl, dormant.1 _ (by simp), (dormant.2 [.frame, .frame]).1, rfl, dormant'.1 _ (by simp)⟩

end Scene

end Transparency
