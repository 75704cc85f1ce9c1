import Transparency.Device.Limited
import Transparency.Proofs.Device.Lawful

/-!
# Devices with limits

The device with limits obeys the laws of devices, and what a limit stops changes nothing.
-/

namespace Transparency.Device
open Buffer (Role Kind Field UsageHint Handle Source)

/-! ## What limits admit -/

namespace Limits
variable {limits : Limits} {role role' : Role} {usage : Usage} {stride stride' n n' : Nat} {e : Error}

theorem of_check_error (h : limits.check role usage stride n = .error e) :
    ∃ size limit, e = .bufferTooLarge role size limit := by
  unfold check at h
  dsimp only at h
  split at h
  · cases h
    exact ⟨_, _, rfl⟩
  · cases h

/-- A buffer that is no larger than one within the limits is within them. -/
theorem check_mono {size : Nat} (h : limits.check role usage stride n = .ok size)
    (le : stride' * max n' 1 ≤ stride * max n 1) :
    ∃ size', limits.check role' usage stride' n' = .ok size' := by
  unfold check at h ⊢
  dsimp only at h ⊢
  split at h
  · cases h
  · rename_i within
    refine ⟨_, if_neg fun exceeds => within (Nat.lt_of_lt_of_le exceeds ?_)⟩
    simp only [byteCount]
    omega

end Limits

/-- Whether a buffer behind a handle may get room for a number of elements. -/
def admits (limits : Option Limits) (h : Handle) (n : Nat) : Except Error Unit :=
  match limits with
  | none => .ok ()
  | some limits =>
    (limits.check h.role (Usage.ofKind h.kind) (paddedStride h.kind h.stride) n).map fun _ => ()

section
variable {limits : Option Limits} {h h' : Handle} {n n' : Nat} {e : Error}

theorem of_admits_error (he : admits limits h n = .error e) :
    ∃ size limit, e = .bufferTooLarge h.role size limit := by
  unfold admits at he
  cases limits with
  | none => cases he
  | some limits =>
      cases hc : limits.check h.role (Usage.ofKind h.kind) (paddedStride h.kind h.stride) n with
      | error e' =>
          simp only [hc] at he
          cases he
          exact Limits.of_check_error hc
      | ok size => simp only [hc] at he; cases he

theorem admits_mono (hk : h.kind = .storage) (hk' : h'.kind = .storage)
    (he : admits limits h n = .ok ()) (le : h'.stride * max n' 1 ≤ h.stride * max n 1) :
    admits limits h' n' = .ok () := by
  unfold admits at he ⊢
  cases limits with
  | none => rfl
  | some limits =>
      dsimp only at he ⊢
      rw [hk] at he
      rw [hk']
      cases hc : limits.check h.role (Usage.ofKind .storage) (paddedStride .storage h.stride) n with
      | error e => rw [hc] at he; cases he
      | ok size =>
          obtain ⟨size', hc'⟩ : ∃ size', limits.check h'.role (Usage.ofKind .storage)
              (paddedStride .storage h'.stride) n' = .ok size' := Limits.check_mono hc le
          rw [hc']
          rfl

end

namespace Limited
variable {d : Limited} {h h' : Handle} {role : Role} {fields : List Field} {kind : Kind} {n : Nat}

/-- Every number in use was given out. -/
def Sound (d : Limited) : Prop := ∀ id, (d.buffers.get? id).isSome → id < d.nextId

/-- The device with this buffer behind a handle. -/
def put (d : Limited) (h : Handle) (b : LimitedBuffer) : Limited :=
  { d with buffers := d.buffers.insert h.id b }

theorem buffer?_congr (d : Limited) (same : h.id = h'.id) : d.buffer? h = d.buffer? h' := by
  rw [buffer?, same, buffer?]

theorem buffer?_put (d : Limited) (h h' : Handle) (b : LimitedBuffer) :
    (d.put h b).buffer? h' = if h'.id = h.id then some b else d.buffer? h' := by
  simp [buffer?, put]

theorem buffer?_destroy (d : Limited) (h h' : Handle) :
    (d.destroy h).buffer? h' = if h'.id = h.id then none else d.buffer? h' := by
  simp [buffer?, destroy]

theorem capacity?_eq (d : Limited) (h : Handle) :
    Registry.capacity? d h = (d.buffer? h).map (·.capacity) := rfl

theorem capacity?_of_known {b : LimitedBuffer} (known : d.buffer? h = some b) :
    Registry.capacity? d h = some b.capacity := by
  rw [capacity?_eq, known, Option.map_some]

theorem capacity?_put (d : Limited) (h h' : Handle) (b : LimitedBuffer) :
    Registry.capacity? (d.put h b) h' =
      if h'.id = h.id then some b.capacity else Registry.capacity? d h' := by
  rw [capacity?_eq, buffer?_put]
  split <;> rfl

theorem Sound.lt (sound : d.Sound) {b : LimitedBuffer} (known : d.buffer? h = some b) :
    h.id < d.nextId :=
  sound h.id (by rw [show d.buffers.get? h.id = some b from known]; rfl)

theorem Sound.lt_of_room (sound : d.Sound) (live : (Registry.capacity? d h).isSome) : h.id < d.nextId :=
  sound h.id (by simpa [capacity?_eq, buffer?] using live)

theorem Sound.put (sound : d.Sound) (b : LimitedBuffer) (issued : h.id < d.nextId) :
    (d.put h b).Sound := by
  intro id live
  simp only [Limited.put, Table.get?_insert] at live ⊢
  by_cases same : id = h.id
  · exact same ▸ issued
  · exact sound id (by simpa [same] using live)

/-- The next number is not in use, as all numbers in use are smaller. -/
theorem Sound.fresh (sound : d.Sound) (role : Role) (fields : List Field) (kind : Kind) :
    d.buffer? (d.issue role fields kind).1 = none := by
  cases known : d.buffer? (d.issue role fields kind).1 with
  | none => rfl
  | some b => exact absurd (sound.lt known) (Nat.lt_irrefl _)

/-! ## What each call comes to -/

/-- A buffer that was just made. -/
def newBuffer (role : Role) (kind : Kind) (h : Handle) (size : Nat) : LimitedBuffer where
  role
  usage := Usage.ofKind kind
  stride := paddedStride kind h.stride
  capacity := initialCapacity kind
  size

/-- Whether a buffer can be made: its elements must not be empty, and it must be within the limits. -/
def admission (d : Limited) (role : Role) (fields : List Field) (kind : Kind) : Except Error Unit :=
  if paddedStride kind (Handle.stride ⟨0, role, kind, fields⟩) = 0 then .error (.allocationFailed role)
  else admits (some d.limits) ⟨0, role, kind, fields⟩ (initialCapacity kind)

theorem of_admission_error {e : Error} (he : d.admission role fields kind = .error e) :
    e = .allocationFailed role ∨ ∃ size limit, e = .bufferTooLarge role size limit := by
  unfold admission at he
  split at he
  · cases he
    exact Or.inl rfl
  · exact Or.inr (of_admits_error he)

/-- Either no buffer is made, and a number is lost, or the limits admit the new buffer. -/
theorem allocate_cases (d : Limited) (role : Role) (fields : List Field) (kind : Kind) :
    (∃ e, d.admission role fields kind = .error e ∧
      d.allocate role fields kind = .fail e (d.issue role fields kind).2) ∨
    ∃ size, d.admission role fields kind = .ok () ∧
      d.limits.check role (Usage.ofKind kind) (paddedStride kind (d.issue role fields kind).1.stride)
        (initialCapacity kind) = .ok size ∧
      d.allocate role fields kind = {
        result := .ok (d.issue role fields kind).1
        device := (d.issue role fields kind).2.put (d.issue role fields kind).1
          (newBuffer role kind (d.issue role fields kind).1 size) } := by
  have stride : paddedStride kind (Handle.stride ⟨0, role, kind, fields⟩) =
      paddedStride kind (d.issue role fields kind).1.stride := rfl
  simp only [allocate, admission, admits, stride]
  split
  · exact Or.inl ⟨_, rfl, rfl⟩
  · split <;> rename_i hc
    · exact Or.inl ⟨_, congrArg (Except.map fun _ => ()) hc, rfl⟩
    · exact Or.inr ⟨_, congrArg (Except.map fun _ => ()) hc, hc, rfl⟩

/-- A buffer with room for more elements, in new memory. -/
def grownBuffer (b : LimitedBuffer) (n size : Nat) : LimitedBuffer :=
  { b with capacity := n, size, generation := b.generation + 1 }

/-- A buffer that is not there or that the limits stop stays as it is, one with enough room as well. -/
theorem resize_cases (d : Limited) (h : Handle) (n : Nat) :
    (d.buffer? h = none ∧ d.resize h n = .fail (.unknownBuffer h.role) d) ∨
    ∃ b, d.buffer? h = some b ∧
      ((n ≤ b.capacity ∧ d.resize h n = .done d) ∨
      (b.capacity < n ∧ ∃ e, d.limits.check b.role b.usage b.stride n = .error e ∧
        d.resize h n = .fail e d) ∨
      (b.capacity < n ∧ ∃ size log, d.limits.check b.role b.usage b.stride n = .ok size ∧
        d.resize h n = .done (d.put h (grownBuffer b n size)) log)) := by
  unfold resize
  cases known : d.buffer? h with
  | none => exact Or.inl ⟨rfl, rfl⟩
  | some b =>
      refine Or.inr ⟨b, rfl, ?_⟩
      dsimp only
      split
      · rename_i enough
        exact Or.inl ⟨enough, rfl⟩
      · rename_i short
        split
        · rename_i e hc
          exact Or.inr (Or.inl ⟨Nat.lt_of_not_le short, e, hc, rfl⟩)
        · rename_i size hc
          exact Or.inr (Or.inr ⟨Nat.lt_of_not_le short, size, _, hc, rfl⟩)

theorem upload_device (d : Limited) (h : Handle) (s : Source) : (d.upload h s).device = d := by
  unfold upload
  split <;> rfl

theorem upload_result (d : Limited) (h : Handle) (s : Source) : (d.upload h s).result =
    if (Registry.capacity? d h).isSome then .ok () else .error (.unknownBuffer h.role) := by
  unfold upload
  rw [capacity?_eq, Option.isSome_map]
  cases d.buffer? h <;> rfl

theorem fill_device (d : Limited) (h : Handle) (v : Int32) : (d.fill h v).device = d := by
  unfold fill
  split <;> rfl

theorem fill_result (d : Limited) (h : Handle) (v : Int32) : (d.fill h v).result =
    if (Registry.capacity? d h).isSome then .ok () else .error (.unknownBuffer h.role) := by
  unfold fill
  rw [capacity?_eq, Option.isSome_map]
  cases d.buffer? h <;> rfl

theorem allocate_device (d : Limited) (role : Role) (fields : List Field) (kind : Kind) :
    (d.allocate role fields kind).device.nextId = d.nextId + 1 ∧
      (d.allocate role fields kind).device.limits = d.limits := by
  rcases d.allocate_cases role fields kind with ⟨e, -, he⟩ | ⟨size, -, -, he⟩
  · rw [he]; exact ⟨rfl, rfl⟩
  · rw [he]; exact ⟨rfl, rfl⟩

theorem resize_device (d : Limited) (h : Handle) (n : Nat) :
    (d.resize h n).device.nextId = d.nextId ∧ (d.resize h n).device.limits = d.limits := by
  rcases d.resize_cases h n with ⟨-, he⟩ | ⟨b, -, ⟨-, he⟩ | ⟨-, e, -, he⟩ | ⟨-, size, log, -, he⟩⟩
  · rw [he]; exact ⟨rfl, rfl⟩
  · rw [he]; exact ⟨rfl, rfl⟩
  · rw [he]; exact ⟨rfl, rfl⟩
  · rw [he]; exact ⟨rfl, rfl⟩

/-- A draw builds a pipeline at most. -/
theorem draw_device (d : Limited) (c : Draw) :
    (d.draw c).device.buffers = d.buffers ∧ (d.draw c).device.nextId = d.nextId ∧
      (d.draw c).device.limits = d.limits := by
  unfold draw
  split
  · exact ⟨rfl, rfl, rfl⟩
  · split
    · exact ⟨rfl, rfl, rfl⟩
    · dsimp only
      split <;> exact ⟨rfl, rfl, rfl⟩

theorem capacity?_draw (d : Limited) (c : Draw) :
    Registry.capacity? (d.draw c).device = Registry.capacity? d := by
  funext h
  rw [capacity?_eq, buffer?, (d.draw_device c).1, ← buffer?, ← capacity?_eq]

/-! ## The laws -/

theorem of_allocate_ok (sound : d.Sound) (made : (d.allocate role fields kind).result = .ok h) :
    h.role = role ∧ Registry.capacity? d h = none ∧
      ∀ h', Registry.capacity? (d.allocate role fields kind).device h' =
        if h'.id = h.id then some (initialCapacity kind) else Registry.capacity? d h' := by
  rcases d.allocate_cases role fields kind with ⟨e, -, he⟩ | ⟨size, -, -, he⟩
  · rw [he] at made; cases made
  · rw [he] at made ⊢
    cases made
    refine ⟨rfl, ?_, fun h' => ?_⟩
    · rw [capacity?_eq, sound.fresh, Option.map_none]
    · rw [capacity?_put]; rfl

theorem of_resize_ok (done : (d.resize h n).result = .ok ()) :
    ∃ before, Registry.capacity? d h = some before ∧
      Registry.capacity? (d.resize h n).device h = some (max before n) := by
  rcases d.resize_cases h n with ⟨-, he⟩ | ⟨b, known, ⟨enough, he⟩ | ⟨short, e, -, he⟩ |
    ⟨short, size, log, -, he⟩⟩
  · rw [he] at done; cases done
  · refine ⟨b.capacity, capacity?_of_known known, ?_⟩
    rw [he, Nat.max_eq_left enough]
    exact capacity?_of_known known
  · rw [he] at done; cases done
  · refine ⟨b.capacity, capacity?_of_known known, ?_⟩
    rw [he, Nat.max_eq_right (Nat.le_of_lt short)]
    simp only [Reply.done, capacity?_put]
    rfl

theorem resize_other (other : h'.id ≠ h.id) :
    Registry.capacity? (d.resize h n).device h' = Registry.capacity? d h' := by
  rcases d.resize_cases h n with ⟨-, he⟩ | ⟨b, -, ⟨-, he⟩ | ⟨-, e, -, he⟩ | ⟨-, size, log, -, he⟩⟩
  · rw [he]; rfl
  · rw [he]; rfl
  · rw [he]; rfl
  · rw [he]; simp [Reply.done, capacity?_put, other]

theorem Sound.resize (sound : d.Sound) : (d.resize h n).device.Sound := by
  rcases d.resize_cases h n with ⟨-, he⟩ | ⟨b, known, ⟨-, he⟩ | ⟨-, e, -, he⟩ | ⟨-, size, log, -, he⟩⟩
  · rw [he]; exact sound
  · rw [he]; exact sound
  · rw [he]; exact sound
  · rw [he]; exact sound.put _ (sound.lt known)

instance : LawfulRegistry Limited where
  Sound := Sound
  capacity?_congr d _ _ same := by rw [capacity?_eq, buffer?_congr d same, capacity?_eq]
  sound_allocate {d} role fields kind _ sound := by
    have issued : (d.issue role fields kind).2.Sound := fun id live => Nat.lt_succ_of_lt (sound id live)
    simp only [Registry.allocate]
    rcases d.allocate_cases role fields kind with ⟨e, -, he⟩ | ⟨size, -, -, he⟩
    · rw [he]; exact issued
    · rw [he]; exact issued.put _ (Nat.lt_succ_self _)
  sound_resize h n sound := sound.resize
  sound_upload {d} h s sound := (d.upload_device h s).symm ▸ sound
  sound_destroy {d} h sound := by
    intro id live
    simp only [Registry.destroy, Limited.destroy, Table.get?_erase] at live
    by_cases same : id = h.id
    · simp [same] at live
    · exact sound id (by simpa [same] using live)
  allocate_error {d} role fields kind _ e failed := by
    simp only [Registry.allocate] at failed ⊢
    rcases d.allocate_cases role fields kind with ⟨e, -, he⟩ | ⟨size, -, -, he⟩
    · rw [he]; rfl
    · rw [he] at failed; cases failed
  allocate_ok sound made := of_allocate_ok sound made
  resize_error {d} h n e failed := by
    simp only [Registry.resize] at failed ⊢
    rcases d.resize_cases h n with ⟨-, he⟩ | ⟨b, -, ⟨-, he⟩ | ⟨-, e, -, he⟩ | ⟨-, size, log, -, he⟩⟩
    · rw [he]; rfl
    · rw [he]; rfl
    · rw [he]; rfl
    · rw [he] at failed; cases failed
  resize_ok {d} h n done := by
    obtain ⟨before, hb, ha⟩ := of_resize_ok done
    refine ⟨max before n, ha, Nat.le_max_right _ _, fun m hm => ?_⟩
    rw [hb] at hm
    cases hm
    exact Nat.le_max_left _ _
  resize_other other := resize_other other
  capacity?_upload d h s := congrArg Registry.capacity? (d.upload_device h s)
  capacity?_destroy d h h' := by
    show ((d.destroy h).buffer? h').map (·.capacity) = _
    rw [buffer?_destroy]
    split <;> rfl

instance : LawfulDevice Limited where
  sound_fill {d} h v sound := (d.fill_device h v).symm ▸ sound
  sound_draw {d} c sound := by
    obtain ⟨hb, hn, -⟩ := d.draw_device c
    intro id live
    simp only [CommandSink.draw, hb, hn] at live ⊢
    exact sound id live
  capacity?_fill d h v := congrArg Registry.capacity? (d.fill_device h v)
  capacity?_draw d c := d.capacity?_draw c
  live_of_fill {d} h v done := by
    simp only [CommandSink.fill, fill_result] at done
    split at done
    · assumption
    · cases done
  live_of_draw {d} c done := by
    simp only [CommandSink.draw, Limited.draw] at done
    split at done
    · cases done
    · split at done
      · cases done
      · rename_i known
        intro b hb
        have h := List.find?_eq_none.mp known b.buffer (List.mem_map_of_mem hb)
        rw [capacity?_eq, Option.isSome_map]
        simpa [Option.isSome_iff_ne_none] using h

end Limited

end Transparency.Device
