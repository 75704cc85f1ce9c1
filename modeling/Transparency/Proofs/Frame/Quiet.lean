import Transparency.Proofs.Fragment.Allocation

/-!
# Devices on which nothing fails

Where the plan of faults is empty, a willing device makes every buffer that it is asked for, and carries
out every command on buffers that are there.
-/

namespace Transparency.Device
open Buffer (Role Kind Field UsageHint Handle Source)

namespace Recorder

/-- The device makes buffers, and shaders can bind them as resolving needs it. -/
structure Able (d : Recorder) : Prop where
  willing : d.refusing = false
  fragmentStorage : d.features.fragmentStorage = true

theorem able_iff (d : Recorder) :
    d.Able ↔ d.refusing = false ∧ d.features.fragmentStorage = true :=
  ⟨fun h => ⟨h.willing, h.fragmentStorage⟩, fun h => ⟨h.1, h.2⟩⟩

/-- No call changes whether the device refuses to make buffers, nor what it can do. -/
theorem registryKeeps_settings (P : Bool → Features → Prop) :
    RegistryKeeps fun d : Recorder => P d.refusing d.features where
  allocate d role fields kind _ h := by
    simp only [Registry.allocate, Recorder.allocate]
    split <;> exact h
  resize d x n h := by
    simp only [Registry.resize, Recorder.resize]
    split
    · exact h
    · split <;> exact h
  upload d x s h := by
    simp only [Registry.upload, Recorder.upload]
    split <;> exact h
  destroy d x h := by
    simp only [Registry.destroy, Recorder.destroy]
    split <;> exact h

theorem registryKeeps_able : RegistryKeeps Able := by
  have h := registryKeeps_settings fun refusing features =>
    refusing = false ∧ features.fragmentStorage = true
  simp only [← able_iff] at h
  exact h

/-- A device that does not refuse makes every buffer, and room in every buffer that is there. -/
theorem willing_refusing : Willing fun d : Recorder => d.refusing = false where
  toRegistryKeeps := registryKeeps_settings fun refusing _ => refusing = false
  allocates {d} role fields kind _ h := by
    simp only [Registry.allocate, Recorder.allocate, h]
    exact ⟨_, rfl⟩
  resizes {d x n} _ live := by
    rw [capacity?_eq, Option.isSome_map] at live
    obtain ⟨b, hb⟩ := Option.isSome_iff_exists.mp live
    simp only [Registry.resize, Recorder.resize, show d.buffer? x = some b from hb]
    split <;> rfl

theorem commandsKeep_able : CommandsKeep Able where
  fill d x v h := by
    simp only [CommandSink.fill, Recorder.fill]
    split
    · exact h
    · exact ⟨h.willing, h.fragmentStorage⟩
  draw d c h := by
    simp only [CommandSink.draw, Recorder.draw]
    split
    · exact h
    · exact ⟨h.willing, h.fragmentStorage⟩

end Recorder

namespace Faulty
variable {σ α : Type}

/-- What the device behind a plan keeps is kept behind it. -/
theorem registryKeeps [Registry σ] {P : σ → Prop} (keeps : RegistryKeeps P) :
    RegistryKeeps fun f : Faulty σ => P f.device where
  allocate f role fields kind hint h := attempt_device P f _ _ h (keeps.allocate _ role fields kind hint h)
  resize f x n h := attempt_device P f _ _ h (keeps.resize _ x n h)
  upload f x s h := attempt_device P f _ _ h (keeps.upload _ x s h)
  destroy _ x h := keeps.destroy _ x h

theorem commandsKeep [CommandSink σ] {P : σ → Prop} (keep : CommandsKeep P) :
    CommandsKeep fun f : Faulty σ => P f.device where
  fill f x v h := attempt_device P f _ _ h (keep.fill _ x v h)
  draw f c h := attempt_device P f _ _ h (keep.draw _ c h)

/-- No call is made to fail from now on. -/
def Unfailing (f : Faulty σ) : Prop := ∀ n, f.calls ≤ n → ∀ call, f.plan n call = none

theorem attempt_of_unfailing {f : Faulty σ} (h : f.Unfailing) (call : Call) (run : σ → Reply σ α) :
    f.attempt call run = (run f.device).map fun d => { f with calls := f.calls + 1, device := d } := by
  rw [Faulty.attempt, h _ (Nat.le_refl _)]

theorem unfailing_attempt {f : Faulty σ} (h : f.Unfailing) (call : Call) (run : σ → Reply σ α) :
    (f.attempt call run).device.Unfailing := by
  rw [attempt_of_unfailing h]
  exact fun n hn => h n (Nat.le_of_succ_le hn)

theorem registryKeeps_unfailing [Registry σ] : RegistryKeeps (Unfailing (σ := σ)) where
  allocate _ _ _ _ _ h := unfailing_attempt h _ _
  resize _ _ _ h := unfailing_attempt h _ _
  upload _ _ _ h := unfailing_attempt h _ _
  destroy _ _ h := h

theorem commandsKeep_unfailing [CommandSink σ] : CommandsKeep (Unfailing (σ := σ)) where
  fill _ _ _ h := unfailing_attempt h _ _
  draw _ _ h := unfailing_attempt h _ _

/-- No call is made to fail from now on, and the device can do what resolving needs. -/
structure Quiet (f : Faulty Recorder) : Prop where
  plan : ∀ n, f.calls ≤ n → ∀ call, f.plan n call = none
  able : f.device.Able

theorem attempt_of_quiet {f : Faulty Recorder} (h : f.Quiet) (call : Call)
    (run : Recorder → Reply Recorder α) : f.attempt call run =
      (run f.device).map fun d => { f with calls := f.calls + 1, device := d } :=
  attempt_of_unfailing h.plan call run

theorem quiet_attempt {f : Faulty Recorder} (h : f.Quiet) (call : Call)
    (run : Recorder → Reply Recorder α) (able : (run f.device).device.Able) :
    (f.attempt call run).device.Quiet :=
  ⟨unfailing_attempt h.plan call run, by rw [attempt_of_quiet h]; exact able⟩

theorem registryKeeps_quiet : RegistryKeeps Quiet where
  allocate _ role fields kind hint h :=
    quiet_attempt h _ _ (Recorder.registryKeeps_able.allocate _ role fields kind hint h.able)
  resize _ x n h := quiet_attempt h _ _ (Recorder.registryKeeps_able.resize _ x n h.able)
  upload _ x s h := quiet_attempt h _ _ (Recorder.registryKeeps_able.upload _ x s h.able)
  destroy _ x h := ⟨h.plan, Recorder.registryKeeps_able.destroy _ x h.able⟩

theorem commandsKeep_quiet : CommandsKeep Quiet where
  fill _ x v h := quiet_attempt h _ _ (Recorder.commandsKeep_able.fill _ x v h.able)
  draw _ c h := quiet_attempt h _ _ (Recorder.commandsKeep_able.draw _ c h.able)

theorem willing_quiet : Willing Quiet where
  toRegistryKeeps := registryKeeps_quiet
  allocates role fields kind hint h := by
    simp only [Registry.allocate, attempt_of_quiet h]
    exact Recorder.willing_refusing.allocates role fields kind hint h.able.willing
  resizes h live := by
    simp only [Registry.resize, attempt_of_quiet h]
    exact Recorder.willing_refusing.resizes h.able.willing live

end Faulty

end Transparency.Device

namespace Transparency.Frame.Session
open Buffer (Role Kind Field UsageHint Handle)
open Device (Registry CommandSink Recorder Faulty Reply)
open Device.Faulty (Quiet Unfailing)

variable {s : Session (Faulty Recorder)} {x : Handle}

theorem buffer?_of_room (live : (s.room x).isSome) : ∃ b, s.device.device.buffer? x = some b := by
  have h : ((s.device.device.buffer? x).map (·.capacity)).isSome := live
  rw [Option.isSome_map] at h
  exact Option.isSome_iff_exists.mp h

theorem fill_of_unfailing (unfailing : s.device.Unfailing) (live : (s.room x).isSome) (v : Int32) :
    ∃ t, s.fill x v = (.ok (), t) := by
  obtain ⟨b, hb⟩ := buffer?_of_room live
  apply absorb_ok
  simp only [CommandSink.fill, Faulty.attempt_of_unfailing unfailing, Recorder.fill, hb]
  rfl

theorem draw_of_unfailing (unfailing : s.device.Unfailing) {d : Draw}
    (live : ∀ b ∈ d.buffers, (s.room b.buffer).isSome) : ∃ t, s.draw d = (.ok (), t) := by
  have known : s.device.device.firstUnknown? (d.buffers.map (·.buffer)) = none := by
    refine List.find?_eq_none.mpr fun x hx => ?_
    obtain ⟨b, hb, rfl⟩ := List.mem_map.mp hx
    obtain ⟨held, hheld⟩ := buffer?_of_room (live b hb)
    rw [hheld]
    simp
  apply absorb_ok
  simp only [CommandSink.draw, Faulty.attempt_of_unfailing unfailing, Recorder.draw, known]
  rfl

theorem clearCounter_of_unfailing (unfailing : s.device.Unfailing)
    (published : s.context.buffer? .counterBuffer = some x) (live : (s.room x).isSome) :
    ∃ t, s.clearCounter = (.ok (), t) := by
  obtain ⟨u, hu⟩ := fill_of_unfailing unfailing live counterClearValue
  unfold clearCounter
  split
  · exact ⟨_, rfl⟩
  · rw [published]
    dsimp only
    rw [hu]
    exact ⟨_, rfl⟩

theorem fill_of_quiet (quiet : s.device.Quiet) (live : (s.room x).isSome) (v : Int32) :
    ∃ t, s.fill x v = (.ok (), t) := fill_of_unfailing quiet.plan live v

theorem draw_of_quiet (quiet : s.device.Quiet) {d : Draw}
    (live : ∀ b ∈ d.buffers, (s.room b.buffer).isSome) : ∃ t, s.draw d = (.ok (), t) :=
  draw_of_unfailing quiet.plan live

end Transparency.Frame.Session
