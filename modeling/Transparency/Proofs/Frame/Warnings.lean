import Transparency.Device.Either
import Transparency.Device.Faulty
import Transparency.Fragment.Bundle

/-!
# Who warns

Devices report what they do, but they do not warn. So no warning is logged while a bundle is kept.
-/

namespace Transparency.Device
open Buffer (Role Kind Field UsageHint Handle Source)

/-- The call logs no warning. -/
def Reply.Calm {σ α : Type} (reply : Reply σ α) : Prop := ∀ line ∈ reply.log, line.level ≠ .warn

/-- A device that logs no warning when it keeps buffers. -/
class CalmRegistry (σ : Type) [Registry σ] : Prop where
  allocate (d : σ) (role : Role) (fields : List Field) (kind : Kind) (hint : UsageHint) :
    (Registry.allocate d role fields kind hint).Calm
  resize (d : σ) (h : Handle) (n : Nat) : (Registry.resize d h n).Calm
  upload (d : σ) (h : Handle) (source : Source) : (Registry.upload d h source).Calm

/-- A device that logs no warning when it carries out commands. -/
class CalmSink (σ : Type) [CommandSink σ] : Prop where
  fill (d : σ) (h : Handle) (value : Int32) : (CommandSink.fill d h value).Calm
  draw (d : σ) (draw : Draw) : (CommandSink.draw d draw).Calm

namespace Reply
variable {σ τ α : Type}

theorem calm_of_log {reply : Reply σ α} (h : reply.log = []) : reply.Calm := by
  intro line mem
  rw [h] at mem
  cases mem

theorem calm_fail (e : Error) (d : σ) : (Reply.fail e d : Reply σ α).Calm := calm_of_log rfl

theorem calm_done (d : σ) : (Reply.done d).Calm := calm_of_log rfl

theorem calm_line {d : σ} {line : LogLine} (h : line.level ≠ .warn) : (Reply.done d [line]).Calm := by
  intro line' mem
  rw [List.mem_singleton.mp mem]
  exact h

theorem Calm.map {reply : Reply σ α} (h : reply.Calm) (f : σ → τ) : (reply.map f).Calm := h

end Reply

open Reply

/-! ## The devices there are -/

instance : CalmRegistry Recorder where
  allocate d role fields kind hint := by
    show (d.allocate role fields kind).Calm
    unfold Recorder.allocate
    split
    · exact calm_fail _ _
    · exact calm_of_log rfl
  resize d h n := by
    show (d.resize h n).Calm
    unfold Recorder.resize
    split
    · exact calm_fail _ _
    · split <;> exact calm_done _
  upload d h source := by
    show (d.upload h source).Calm
    unfold Recorder.upload
    split
    · exact calm_fail _ _
    · exact calm_done _

instance : CalmSink Recorder where
  fill d h value := by
    show (d.fill h value).Calm
    unfold Recorder.fill
    split
    · exact calm_fail _ _
    · exact calm_done _
  draw d draw := by
    show (d.draw draw).Calm
    unfold Recorder.draw
    split
    · exact calm_fail _ _
    · exact calm_done _

instance : CalmRegistry Limited where
  allocate d role fields kind hint := by
    show (d.allocate role fields kind).Calm
    unfold Limited.allocate
    dsimp only
    split
    · exact calm_fail _ _
    · split
      · exact calm_fail _ _
      · exact calm_of_log rfl
  resize d h n := by
    show (d.resize h n).Calm
    unfold Limited.resize
    split
    · exact calm_fail _ _
    · split
      · exact calm_done _
      · split
        · exact calm_fail _ _
        · exact calm_line nofun
  upload d h source := by
    show (d.upload h source).Calm
    unfold Limited.upload
    split
    · exact calm_fail _ _
    · exact calm_done _

instance : CalmSink Limited where
  fill d h value := by
    show (d.fill h value).Calm
    unfold Limited.fill
    split
    · exact calm_fail _ _
    · exact calm_done _
  draw d draw := by
    show (d.draw draw).Calm
    unfold Limited.draw
    split
    · exact calm_fail _ _
    · split
      · exact calm_fail _ _
      · dsimp only
        split
        · exact calm_done _
        · exact calm_line nofun

theorem Faulty.calm_attempt {σ α : Type} (f : Faulty σ) (call : Call) {run : σ → Reply σ α}
    (h : (run f.device).Calm) : (f.attempt call run).Calm := by
  unfold attempt
  dsimp only
  split
  · exact calm_fail _ _
  · exact h.map _

/-- Faults do not make a device warn. -/
instance {σ : Type} [Registry σ] [CalmRegistry σ] : CalmRegistry (Faulty σ) where
  allocate d _ _ _ _ := d.calm_attempt _ (CalmRegistry.allocate _ _ _ _ _)
  resize d _ _ := d.calm_attempt _ (CalmRegistry.resize _ _ _)
  upload d _ _ := d.calm_attempt _ (CalmRegistry.upload _ _ _)

instance {σ : Type} [CommandSink σ] [CalmSink σ] : CalmSink (Faulty σ) where
  fill d _ _ := d.calm_attempt _ (CalmSink.fill _ _ _)
  draw d _ := d.calm_attempt _ (CalmSink.draw _ _)

instance : CalmRegistry Either where
  allocate
    | .recorder d, role, fields, kind, hint => (CalmRegistry.allocate d role fields kind hint).map Either.recorder
    | .limited d, role, fields, kind, hint => (CalmRegistry.allocate d role fields kind hint).map Either.limited
  resize
    | .recorder d, h, n => (CalmRegistry.resize d h n).map Either.recorder
    | .limited d, h, n => (CalmRegistry.resize d h n).map Either.limited
  upload
    | .recorder d, h, source => (CalmRegistry.upload d h source).map Either.recorder
    | .limited d, h, source => (CalmRegistry.upload d h source).map Either.limited

instance : CalmSink Either where
  fill
    | .recorder d, h, value => (CalmSink.fill d h value).map Either.recorder
    | .limited d, h, value => (CalmSink.fill d h value).map Either.limited
  draw
    | .recorder d, draw => (CalmSink.draw d draw).map Either.recorder
    | .limited d, draw => (CalmSink.draw d draw).map Either.limited

end Transparency.Device

namespace Transparency.Frame.Session
open Buffer (Role Kind Field UsageHint Handle Source)
open Device (Registry CommandSink CalmRegistry CalmSink Reply)

variable {σ α : Type} (s : Session σ)

/-! ## Warnings of a session -/

/-- The warnings that were logged. -/
def warnings : List LogLine := s.log.filter (·.level = .warn)

theorem warnings_warn (text : String) : (s.report .warn text).warnings = s.warnings ++ [⟨.warn, text⟩] := by
  simp [warnings, report]

theorem warnings_report (level : LogLevel) (text : String) (other : level ≠ .warn) :
    (s.report level text).warnings = s.warnings := by
  simp [warnings, report, other]

theorem warnings_fail (task : String) (e : Error) : (s.fail task e).warnings = s.warnings :=
  s.warnings_report .error _ nofun

theorem warnings_absorb {reply : Reply σ α} (calm : reply.Calm) (event : α → Event) :
    (s.absorb reply event).2.warnings = s.warnings := by
  have none : reply.log.filter (·.level = .warn) = [] :=
    List.filter_eq_nil_iff.mpr fun line mem warns => calm line mem (of_decide_eq_true warns)
  unfold absorb
  dsimp only
  split <;> simp [warnings, note, none]

theorem warnings_draw [CommandSink σ] [CalmSink σ] (d : Draw) : (s.draw d).2.warnings = s.warnings :=
  s.warnings_absorb (CalmSink.draw _ _) _

section
variable [Registry σ]

theorem warnings_destroyAll (hs : List Handle) : (s.destroyAll hs).warnings = s.warnings := by
  induction hs generalizing s with
  | nil => rfl
  | cons h hs ih => exact ih (s.destroy h)

variable [CalmRegistry σ]

theorem warnings_allocate (role : Role) (fields : List Field) (kind : Kind) (hint : UsageHint) :
    (s.allocate role fields kind hint).2.warnings = s.warnings :=
  s.warnings_absorb (CalmRegistry.allocate _ _ _ _ _) _

theorem warnings_resize (h : Handle) (n : Nat) : (s.resize h n).2.warnings = s.warnings :=
  s.warnings_absorb (CalmRegistry.resize _ _ _) _

theorem warnings_upload (h : Handle) (source : Source) : (s.upload h source).2.warnings = s.warnings :=
  s.warnings_absorb (CalmRegistry.upload _ _ _) _

theorem warnings_resizeAll (rs : List (Handle × Nat)) : (s.resizeAll rs).2.warnings = s.warnings := by
  induction rs generalizing s with
  | nil => rfl
  | cons r rs ih =>
      have hr := s.warnings_resize r.1 r.2
      simp only [resizeAll]
      split <;> rename_i he <;> rw [he] at hr
      · exact hr
      · rw [ih, hr]

end

end Transparency.Frame.Session

namespace Transparency.Fragment
open Buffer (Handle)
open Device (Registry CalmRegistry)
open Transparency.Frame (Session)

variable {σ : Type} [Registry σ] (s : Session σ)

/-! ## Bundles do not warn -/

theorem Bundle.warnings_release (bundle : Bundle) : (bundle.release s).2.warnings = s.warnings := by
  unfold release
  split
  · rfl
  · exact (Session.warnings_report _ .debug _ nofun).trans (Session.warnings_destroyAll _ _)

variable [CalmRegistry σ]

theorem warnings_allocateAll (made : List Handle) (plans : List BufferPlan) :
    (allocateAll made s plans).2.warnings = s.warnings := by
  induction plans generalizing s made with
  | nil => rfl
  | cons plan plans ih =>
      have hp := s.warnings_allocate plan.role [⟨plan.field, plan.element⟩] plan.kind plan.hint
      simp only [allocateAll]
      split <;> rename_i he <;> rw [he] at hp
      · rw [Session.warnings_destroyAll, hp]
      · rw [ih, hp]

theorem warnings_allocateBuffers : (allocateBuffers s).2.warnings = s.warnings := by
  have hm := warnings_allocateAll s [] bufferPlans
  unfold allocateBuffers
  split <;> rename_i he <;> rw [he] at hm
  · exact hm
  · split
    · exact hm
    · rename_i made t _ buffers _
      have hr := t.warnings_resize buffers.counter Capacities.empty.counter
      split <;> rename_i he <;> rw [he] at hr
      · rw [Session.warnings_destroyAll, hr, hm]
      · exact (Session.warnings_report _ .debug _ nofun).trans (hr.trans hm)

namespace Bundle

theorem warnings_ensure (bundle : Bundle) : (bundle.ensure s).session.warnings = s.warnings := by
  have hm := warnings_allocateBuffers s
  unfold ensure
  split
  · rfl
  · split <;> rename_i he <;> rw [he] at hm <;> exact hm

theorem warnings_growBuffers (buffers : Buffers) (size : Size) (capacities : Capacities) :
    (growBuffers buffers s size capacities).2.warnings = s.warnings := by
  have hr := s.warnings_resizeAll [(buffers.data, capacities.fragments), (buffers.indices, capacities.fragments),
    (buffers.depth, capacities.fragments), (buffers.counter, capacities.counter)]
  unfold growBuffers
  split <;> rename_i he <;> rw [he] at hr
  · exact hr
  · rw [Session.warnings_upload, hr]

theorem warnings_grow (bundle : Bundle) (requested : Size) :
    (bundle.grow s requested).session.warnings = s.warnings := by
  unfold grow
  split
  · rfl
  · rfl
  · rename_i size capacities _
    split
    · rfl
    · rename_i buffers _
      have hg := warnings_growBuffers s buffers size capacities
      split <;> rename_i he <;> rw [he] at hg
      · exact hg
      · exact (Session.warnings_report _ .debug _ nofun).trans hg

theorem warnings_prepare (bundle : Bundle) (requested : Size) :
    (bundle.prepare s requested).session.warnings = s.warnings := by
  unfold prepare
  split
  · rfl
  · have he := warnings_ensure s bundle
    dsimp only
    split
    · exact he
    · exact (warnings_grow _ _ _).trans he

end Bundle

end Transparency.Fragment
