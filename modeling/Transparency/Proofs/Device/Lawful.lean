import Transparency.Device.Faulty
import Transparency.Device.Recorder

/-!
# What callers may count on

The laws of devices: a call that fails changes no capacity, a new buffer gets a handle that nobody
uses, and no capacity shrinks. They hold of the device that records what was done, and behind any plan
of faults.
-/

namespace Transparency.Device
open Buffer (Role Kind Field UsageHint Handle Source)

/-- The laws of a device that keeps buffers. A buffer is known by the number of its handle. -/
class LawfulRegistry (σ : Type) [Registry σ] where
  /-- What holds of a new device, and after every call. -/
  Sound : σ → Prop
  capacity?_congr (d : σ) {h h' : Handle} :
    h.id = h'.id → Registry.capacity? d h = Registry.capacity? d h'
  sound_allocate {d : σ} (role : Role) (fields : List Field) (kind : Kind) (hint : UsageHint) :
    Sound d → Sound (Registry.allocate d role fields kind hint).device
  sound_resize {d : σ} (h : Handle) (n : Nat) : Sound d → Sound (Registry.resize d h n).device
  sound_upload {d : σ} (h : Handle) (s : Source) : Sound d → Sound (Registry.upload d h s).device
  sound_destroy {d : σ} (h : Handle) : Sound d → Sound (Registry.destroy d h)
  allocate_error {d : σ} {role : Role} {fields : List Field} {kind : Kind} {hint : UsageHint}
    {e : Error} : (Registry.allocate d role fields kind hint).result = .error e →
    Registry.capacity? (Registry.allocate d role fields kind hint).device = Registry.capacity? d
  allocate_ok {d : σ} {role : Role} {fields : List Field} {kind : Kind} {hint : UsageHint}
    {h : Handle} : Sound d → (Registry.allocate d role fields kind hint).result = .ok h →
    h.role = role ∧ Registry.capacity? d h = none ∧
      ∀ h', Registry.capacity? (Registry.allocate d role fields kind hint).device h' =
        if h'.id = h.id then some (initialCapacity kind) else Registry.capacity? d h'
  resize_error {d : σ} {h : Handle} {n : Nat} {e : Error} :
    (Registry.resize d h n).result = .error e →
    Registry.capacity? (Registry.resize d h n).device = Registry.capacity? d
  resize_ok {d : σ} {h : Handle} {n : Nat} : (Registry.resize d h n).result = .ok () →
    ∃ after, Registry.capacity? (Registry.resize d h n).device h = some after ∧ n ≤ after ∧
      ∀ before, Registry.capacity? d h = some before → before ≤ after
  resize_other {d : σ} {h h' : Handle} {n : Nat} : h'.id ≠ h.id →
    Registry.capacity? (Registry.resize d h n).device h' = Registry.capacity? d h'
  capacity?_upload (d : σ) (h : Handle) (s : Source) :
    Registry.capacity? (Registry.upload d h s).device = Registry.capacity? d
  capacity?_destroy (d : σ) (h h' : Handle) : Registry.capacity? (Registry.destroy d h) h' =
    if h'.id = h.id then none else Registry.capacity? d h'

/-- The laws of a device that carries out commands as well: no command changes a capacity, and those on
buffers that are not there fail. -/
class LawfulDevice (σ : Type) [Registry σ] [CommandSink σ] extends LawfulRegistry σ where
  sound_fill {d : σ} (h : Handle) (v : Int32) : Sound d → Sound (CommandSink.fill d h v).device
  sound_draw {d : σ} (c : Draw) : Sound d → Sound (CommandSink.draw d c).device
  capacity?_fill (d : σ) (h : Handle) (v : Int32) :
    Registry.capacity? (CommandSink.fill d h v).device = Registry.capacity? d
  capacity?_draw (d : σ) (c : Draw) :
    Registry.capacity? (CommandSink.draw d c).device = Registry.capacity? d
  live_of_fill {d : σ} {h : Handle} {v : Int32} : (CommandSink.fill d h v).result = .ok () →
    (Registry.capacity? d h).isSome
  live_of_draw {d : σ} {c : Draw} : (CommandSink.draw d c).result = .ok () →
    ∀ b ∈ c.buffers, (Registry.capacity? d b.buffer).isSome

attribute [simp] LawfulRegistry.capacity?_upload LawfulDevice.capacity?_fill
  LawfulDevice.capacity?_draw

/-! ## What calls leave as it is -/

/-- What no call changes that keeps buffers. -/
structure RegistryKeeps {σ : Type} [Registry σ] (P : σ → Prop) : Prop where
  allocate (d : σ) (role : Role) (fields : List Field) (kind : Kind) (hint : UsageHint) :
    P d → P (Registry.allocate d role fields kind hint).device
  resize (d : σ) (h : Handle) (n : Nat) : P d → P (Registry.resize d h n).device
  upload (d : σ) (h : Handle) (s : Source) : P d → P (Registry.upload d h s).device
  destroy (d : σ) (h : Handle) : P d → P (Registry.destroy d h)

/-- What no command changes. -/
structure CommandsKeep {σ : Type} [CommandSink σ] (P : σ → Prop) : Prop where
  fill (d : σ) (h : Handle) (v : Int32) : P d → P (CommandSink.fill d h v).device
  draw (d : σ) (c : Draw) : P d → P (CommandSink.draw d c).device

/-- What no call changes that keeps buffers, and while it holds, no buffer is refused. -/
structure Willing {σ : Type} [Registry σ] (P : σ → Prop) : Prop extends RegistryKeeps P where
  allocates {d : σ} (role : Role) (fields : List Field) (kind : Kind) (hint : UsageHint) :
    P d → ∃ h, (Registry.allocate d role fields kind hint).result = .ok h
  resizes {d : σ} {h : Handle} {n : Nat} :
    P d → (Registry.capacity? d h).isSome → (Registry.resize d h n).result = .ok ()

section
variable {σ : Type}

theorem registryKeeps_sound [Registry σ] [LawfulRegistry σ] :
    RegistryKeeps (LawfulRegistry.Sound (σ := σ)) where
  allocate _ role fields kind hint := LawfulRegistry.sound_allocate role fields kind hint
  resize _ h n := LawfulRegistry.sound_resize h n
  upload _ h s := LawfulRegistry.sound_upload h s
  destroy _ h := LawfulRegistry.sound_destroy h

variable [CommandSink σ]

theorem commandsKeep_sound [Registry σ] [LawfulDevice σ] :
    CommandsKeep (LawfulRegistry.Sound (σ := σ)) where
  fill _ h v := LawfulDevice.sound_fill h v
  draw _ c := LawfulDevice.sound_draw c

theorem commandsKeep_capacity? [Registry σ] [LawfulDevice σ] (f : Handle → Option Nat) :
    CommandsKeep fun d : σ => Registry.capacity? d = f where
  fill d h v hd := (LawfulDevice.capacity?_fill d h v).trans hd
  draw d c hd := (LawfulDevice.capacity?_draw d c).trans hd

end

/-! ## The device that records -/

namespace Recorder

/-- Every number in use was given out. -/
def Sound (d : Recorder) : Prop := ∀ id, (d.buffers.get? id).isSome → id < d.nextId

theorem capacity?_eq (d : Recorder) (h : Handle) :
    Registry.capacity? d h = (d.buffers.get? h.id).map (·.capacity) := rfl

theorem Sound.update {d : Recorder} (sound : d.Sound) {h : Handle} (b : RecordedBuffer)
    (o : Operation) (issued : h.id < d.nextId) : (d.update h b o).Sound := by
  intro id live
  simp only [Recorder.update, Table.get?_insert] at live ⊢
  by_cases same : id = h.id
  · exact same ▸ issued
  · exact sound id (by simpa [same] using live)

theorem Sound.issued {d : Recorder} (sound : d.Sound) {h : Handle} {b : RecordedBuffer}
    (known : d.buffer? h = some b) : h.id < d.nextId :=
  sound h.id (by rw [show d.buffers.get? h.id = some b from known]; rfl)

theorem Sound.lt_of_room {d : Recorder} (sound : d.Sound) {h : Handle}
    (live : (Registry.capacity? d h).isSome) : h.id < d.nextId :=
  sound h.id (by simpa [capacity?_eq] using live)

theorem capacity?_update (d : Recorder) (h h' : Handle) (b : RecordedBuffer) (o : Operation) :
    Registry.capacity? (d.update h b o) h' =
      if h'.id = h.id then some b.capacity else Registry.capacity? d h' := by
  simp only [capacity?_eq, Recorder.update, Table.get?_insert]
  split <;> rfl

theorem capacity?_congr (d : Recorder) {h h' : Handle} (same : h.id = h'.id) :
    Registry.capacity? d h = Registry.capacity? d h' := by
  rw [capacity?_eq, same, ← capacity?_eq]

theorem capacity?_of_known {d : Recorder} {h : Handle} {b : RecordedBuffer}
    (known : d.buffer? h = some b) : Registry.capacity? d h = some b.capacity :=
  congrArg (Option.map (·.capacity)) known

/-- What a buffer holds may change without its capacity. -/
theorem capacity?_update_contents {d : Recorder} {h : Handle} {b : RecordedBuffer}
    (known : d.buffer? h = some b) (contents : Contents) (o : Operation) :
    Registry.capacity? (d.update h { b with contents } o) = Registry.capacity? d := by
  funext h'
  rw [capacity?_update]
  split
  · rename_i same
    rw [capacity?_congr d same, capacity?_of_known known]
  · rfl

theorem of_allocate_ok {d : Recorder} {role : Role} {fields : List Field} {kind : Kind} {h : Handle}
    (sound : d.Sound) (made : (d.allocate role fields kind).result = .ok h) :
    h.role = role ∧ Registry.capacity? d h = none ∧
      ∀ h', Registry.capacity? (d.allocate role fields kind).device h' =
        if h'.id = h.id then some (initialCapacity kind) else Registry.capacity? d h' := by
  unfold Recorder.allocate at made ⊢
  split at made
  · cases made
  · rename_i willing
    cases made
    refine ⟨rfl, ?_, fun h' => ?_⟩
    · -- the next number is not in use, as all numbers in use are smaller
      cases known : d.buffers.get? d.nextId with
      | none => simp [capacity?_eq, known]
      | some b => exact absurd (sound d.nextId (by simp [known])) (Nat.lt_irrefl _)
    · simp only [willing, Bool.false_eq_true, if_false, capacity?_update]
      rfl

theorem of_resize_ok {d : Recorder} {h : Handle} {n : Nat} (done : (d.resize h n).result = .ok ()) :
    ∃ after, Registry.capacity? (d.resize h n).device h = some after ∧ n ≤ after ∧
      ∀ before, Registry.capacity? d h = some before → before ≤ after := by
  unfold Recorder.resize at done ⊢
  split
  · rename_i unknown
    simp [unknown, Reply.fail] at done
  · rename_i b known
    have held := capacity?_of_known known
    split
    · rename_i enough
      refine ⟨b.capacity, held, enough, fun m hm => ?_⟩
      rw [held] at hm; cases hm; exact Nat.le_refl _
    · rename_i short
      refine ⟨n, by simp [Reply.done, capacity?_update], Nat.le_refl _, fun m hm => ?_⟩
      rw [held] at hm; cases hm; omega

instance : LawfulRegistry Recorder where
  Sound := Sound
  capacity?_congr d _ _ same := capacity?_congr d same
  sound_allocate {d} role fields kind _ sound := by
    simp only [Registry.allocate, Recorder.allocate]
    split
    · exact sound
    · refine Sound.update (fun id live => ?_) _ _ (Nat.lt_succ_self _)
      exact Nat.lt_succ_of_lt (sound id live)
  sound_resize {d} h n sound := by
    simp only [Registry.resize, Recorder.resize]
    split
    · exact sound
    · rename_i b known
      split
      · exact sound
      · exact sound.update _ _ (sound.issued known)
  sound_upload {d} h s sound := by
    simp only [Registry.upload, Recorder.upload]
    split
    · exact sound
    · rename_i b known
      exact sound.update _ _ (sound.issued known)
  sound_destroy {d} h sound := by
    simp only [Registry.destroy, Recorder.destroy]
    split
    · exact sound
    · intro id live
      simp only [Table.get?_erase] at live
      by_cases same : id = h.id
      · simp [same] at live
      · exact sound id (by simpa [same] using live)
  allocate_error {d} role fields kind _ e failed := by
    simp only [Registry.allocate, Recorder.allocate] at failed ⊢
    split
    · rfl
    · rename_i willing
      simp [willing] at failed
  allocate_ok sound made := of_allocate_ok sound made
  resize_error {d} h n e failed := by
    simp only [Registry.resize, Recorder.resize] at failed ⊢
    split
    · rfl
    · rename_i b known
      simp only [known] at failed
      split at failed <;> cases failed
  resize_ok done := of_resize_ok done
  resize_other {d} h h' n other := by
    simp only [Registry.resize, Recorder.resize]
    split
    · rfl
    · split
      · rfl
      · simp [Reply.done, capacity?_update, other]
  capacity?_upload d h s := by
    simp only [Registry.upload, Recorder.upload]
    split
    · rfl
    · rename_i b known
      exact capacity?_update_contents known _ _
  capacity?_destroy d h h' := by
    simp only [Registry.destroy, Recorder.destroy]
    split
    · rename_i unknown
      split
      · rename_i same
        rw [capacity?_congr d same]
        exact congrArg (Option.map (·.capacity)) unknown
      · rfl
    · simp only [capacity?_eq, Table.get?_erase]
      split <;> rfl

instance : LawfulDevice Recorder where
  sound_fill {d} h v sound := by
    simp only [CommandSink.fill, Recorder.fill]
    split
    · exact sound
    · rename_i b known
      exact Sound.update sound _ _ (Sound.issued sound known)
  sound_draw {d} c sound := by
    simp only [CommandSink.draw, Recorder.draw]
    split <;> exact sound
  capacity?_fill d h v := by
    simp only [CommandSink.fill, Recorder.fill]
    split
    · rfl
    · rename_i b known
      exact capacity?_update_contents known _ _
  capacity?_draw d c := by
    simp only [CommandSink.draw, Recorder.draw]
    split <;> rfl
  live_of_fill {d} h v done := by
    simp only [CommandSink.fill, Recorder.fill] at done
    split at done
    · cases done
    · rename_i b known
      rw [capacity?_of_known known]; rfl
  live_of_draw {d} c done := by
    simp only [CommandSink.draw, Recorder.draw] at done
    split at done
    · cases done
    · rename_i known
      intro b hb
      have h := List.find?_eq_none.mp known b.buffer (List.mem_map_of_mem hb)
      rw [capacity?_eq, Option.isSome_map]
      simpa [Recorder.buffer?, Option.isSome_iff_ne_none] using h

theorem buffer?_update_self (d : Recorder) (h : Handle) (b : RecordedBuffer) (o : Operation) :
    (d.update h b o).buffer? h = some b := by
  simp [buffer?, Recorder.update, Table.get?_insert]

/-- A fill that succeeds sets all that the buffer has room for. -/
theorem fill_cases (d : Recorder) (h : Handle) (v : Int32) :
    (∃ e, d.fill h v = .fail e d) ∨
    ∃ b, d.buffer? h = some b ∧ d.fill h v =
      .done (d.update h { b with contents := .filled v b.capacity } (.filled b.role v b.capacity)) := by
  unfold Recorder.fill
  split
  · exact Or.inl ⟨_, rfl⟩
  · rename_i b known
    exact Or.inr ⟨b, known, rfl⟩

theorem of_fill_ok {d : Recorder} {h : Handle} {v : Int32} (done : (d.fill h v).result = .ok ()) :
    ∃ b, d.buffer? h = some b ∧ (d.fill h v).device =
      d.update h { b with contents := .filled v b.capacity } (.filled b.role v b.capacity) := by
  rcases d.fill_cases h v with ⟨e, he⟩ | ⟨b, known, he⟩
  · rw [he] at done
    cases done
  · exact ⟨b, known, by rw [he]; rfl⟩

end Recorder

/-! ## Devices behind a plan of faults -/

namespace Faulty
variable {σ : Type} {α : Type}

/-- A call fails and reaches nothing but the count of calls, or it is made as without the plan. -/
theorem attempt_cases (f : Faulty σ) (call : Call) (run : σ → Reply σ α) :
    (∃ e, f.attempt call run = .fail e { f with calls := f.calls + 1 }) ∨
    f.attempt call run = (run f.device).map fun d => { f with calls := f.calls + 1, device := d } := by
  unfold Faulty.attempt
  cases f.plan f.calls call with
  | none => exact Or.inr rfl
  | some e => exact Or.inl ⟨e, rfl⟩

/-- What every reply of a device has, the device behind it has after an attempt. -/
theorem attempt_device (P : σ → Prop) (f : Faulty σ) (call : Call) (run : σ → Reply σ α)
    (same : P f.device) (made : P (run f.device).device) : P (f.attempt call run).device.device := by
  rcases attempt_cases f call run with ⟨e, h⟩ | h
  · rw [h]; exact same
  · rw [h]; exact made

theorem of_attempt_ok {f : Faulty σ} {call : Call} {run : σ → Reply σ α} {a : α}
    (done : (f.attempt call run).result = .ok a) : (run f.device).result = .ok a ∧
      (f.attempt call run).device.device = (run f.device).device := by
  rcases attempt_cases f call run with ⟨e, h⟩ | h
  · rw [h] at done; cases done
  · rw [h] at done ⊢; exact ⟨done, rfl⟩

theorem capacity?_eq [Registry σ] (f : Faulty σ) :
    Registry.capacity? f = Registry.capacity? f.device := rfl

instance [Registry σ] [LawfulRegistry σ] : LawfulRegistry (Faulty σ) where
  Sound f := LawfulRegistry.Sound f.device
  capacity?_congr f h h' same := LawfulRegistry.capacity?_congr f.device same
  sound_allocate role fields kind hint sound :=
    attempt_device _ _ _ _ sound (LawfulRegistry.sound_allocate role fields kind hint sound)
  sound_resize h n sound :=
    attempt_device _ _ _ _ sound (LawfulRegistry.sound_resize h n sound)
  sound_upload h s sound :=
    attempt_device _ _ _ _ sound (LawfulRegistry.sound_upload h s sound)
  sound_destroy h sound := LawfulRegistry.sound_destroy h sound
  allocate_error {f role fields kind hint e} failed := by
    simp only [capacity?_eq]
    simp only [Registry.allocate] at failed ⊢
    rcases attempt_cases f (.allocate role)
      (fun d => Registry.allocate d role fields kind hint) with ⟨_, h⟩ | h
    · rw [h]; rfl
    · rw [h] at failed ⊢; exact LawfulRegistry.allocate_error failed
  allocate_ok {f role fields kind hint h'} sound made := by
    simp only [capacity?_eq]
    simp only [Registry.allocate] at made ⊢
    rcases attempt_cases f (.allocate role)
      (fun d => Registry.allocate d role fields kind hint) with ⟨_, h⟩ | h
    · rw [h] at made; cases made
    · rw [h] at made ⊢; exact LawfulRegistry.allocate_ok sound made
  resize_error {f h' n e} failed := by
    simp only [capacity?_eq]
    simp only [Registry.resize] at failed ⊢
    rcases attempt_cases f (.resize h'.role n) (fun d => Registry.resize d h' n) with ⟨_, h⟩ | h
    · rw [h]; rfl
    · rw [h] at failed ⊢; exact LawfulRegistry.resize_error failed
  resize_ok {f h' n} done := by
    simp only [capacity?_eq]
    simp only [Registry.resize] at done ⊢
    rcases attempt_cases f (.resize h'.role n) (fun d => Registry.resize d h' n) with ⟨_, h⟩ | h
    · rw [h] at done; cases done
    · rw [h] at done ⊢; exact LawfulRegistry.resize_ok done
  resize_other {f h h' n} other :=
    attempt_device (fun d => Registry.capacity? d h' = Registry.capacity? f.device h') _ _ _ rfl
      (LawfulRegistry.resize_other other)
  capacity?_upload f h s :=
    attempt_device (fun d => Registry.capacity? d = Registry.capacity? f.device) _ _ _ rfl
      (LawfulRegistry.capacity?_upload f.device h s)
  capacity?_destroy f h h' := LawfulRegistry.capacity?_destroy f.device h h'

instance [Registry σ] [CommandSink σ] [LawfulDevice σ] : LawfulDevice (Faulty σ) where
  sound_fill h v sound := attempt_device _ _ _ _ sound (LawfulDevice.sound_fill h v sound)
  sound_draw c sound := attempt_device _ _ _ _ sound (LawfulDevice.sound_draw c sound)
  capacity?_fill f h v :=
    attempt_device (fun d => Registry.capacity? d = Registry.capacity? f.device) _ _ _ rfl
      (LawfulDevice.capacity?_fill f.device h v)
  capacity?_draw f c :=
    attempt_device (fun d => Registry.capacity? d = Registry.capacity? f.device) _ _ _ rfl
      (LawfulDevice.capacity?_draw f.device c)
  live_of_fill done := LawfulDevice.live_of_fill (σ := σ) (of_attempt_ok done).1
  live_of_draw done := LawfulDevice.live_of_draw (σ := σ) (of_attempt_ok done).1

end Faulty

end Transparency.Device
