import Transparency.Proofs.Device.Limited

/-!
# Devices of which every answer is known

On a device without injected faults, what becomes of a call follows from what was made and from the limits,
if there are any.
-/

namespace Transparency.Device
open Buffer (Role Kind Field UsageHint Handle Source)

/-! ## The laws -/

/-- The laws of a device on which nothing fails but what its state says must fail. -/
class ExactRegistry (σ : Type) [Registry σ] extends LawfulRegistry σ where
  /-- The limits of the device, if it has any. -/
  limits? : σ → Option Limits
  /-- A buffer is there, and it is what its handle says. -/
  Made : σ → Handle → Prop
  keeps_limits? (l : Option Limits) : RegistryKeeps fun d : σ => limits? d = l
  made_allocate {d : σ} {role : Role} {fields : List Field} {kind : Kind} {hint : UsageHint}
    {h : Handle} : Sound d → (Registry.allocate d role fields kind hint).result = .ok h →
    h.kind = kind ∧ h.fields = fields ∧
      Made (Registry.allocate d role fields kind hint).device h ∧
      ∀ x, Made d x → Made (Registry.allocate d role fields kind hint).device x
  made_resize {d : σ} {x : Handle} (h : Handle) (n : Nat) :
    Made d x → Made (Registry.resize d h n).device x
  made_upload {d : σ} {x : Handle} (h : Handle) (s : Source) :
    Made d x → Made (Registry.upload d h s).device x
  resize_result {d : σ} {h : Handle} {m n : Nat} : Made d h → Registry.capacity? d h = some m →
    (Registry.resize d h n).result = if n ≤ m then .ok () else admits (limits? d) h n
  room_resize {d : σ} {h : Handle} {m n : Nat} : (Registry.resize d h n).result = .ok () →
    Registry.capacity? d h = some m →
    Registry.capacity? (Registry.resize d h n).device h = some (max m n)
  upload_result {d : σ} {h : Handle} {s : Source} : (Registry.capacity? d h).isSome →
    (Registry.upload d h s).result = .ok ()

/-! ## The device that records -/

namespace Recorder
variable {d : Recorder} {h x : Handle} {n : Nat}

theorem isSome_buffer?_update (known : (d.buffer? x).isSome) (b : RecordedBuffer) (o : Operation) :
    ((d.update h b o).buffer? x).isSome := by
  simp only [buffer?, Recorder.update, Table.get?_insert]
  split
  · rfl
  · exact known

/-- The form of all calls on one buffer: they only fail when the buffer is not there. -/
theorem result_of_known (d : Recorder) (h : Handle) {reply : RecordedBuffer → Reply Recorder Unit}
    (fine : ∀ b, (reply b).result = .ok ()) :
    (match d.buffer? h with
      | none => Reply.fail (.unknownBuffer h.role) d
      | some b => reply b).result =
    if (Registry.capacity? d h).isSome then .ok () else .error (.unknownBuffer h.role) := by
  rw [capacity?_eq, Option.isSome_map, ← buffer?]
  cases d.buffer? h with
  | none => rfl
  | some b => exact fine b

theorem resize_result (d : Recorder) (h : Handle) (n : Nat) : (d.resize h n).result =
    if (Registry.capacity? d h).isSome then .ok () else .error (.unknownBuffer h.role) :=
  d.result_of_known h fun b => by split <;> rfl

theorem room_resize {m : Nat} (done : (d.resize h n).result = .ok ())
    (room : Registry.capacity? d h = some m) :
    Registry.capacity? (d.resize h n).device h = some (max m n) := by
  unfold resize at done ⊢
  cases known : d.buffer? h with
  | none => rw [known] at done; cases done
  | some b =>
      rw [capacity?_of_known known] at room
      cases room
      dsimp only
      split
      · rename_i enough
        rw [Nat.max_eq_left enough]
        exact capacity?_of_known known
      · rename_i short
        rw [Nat.max_eq_right (by omega)]
        exact (capacity?_update _ _ _ _ _).trans (if_pos rfl)

instance : ExactRegistry Recorder where
  limits? _ := none
  Made d h := (d.buffer? h).isSome
  keeps_limits? _ := ⟨fun _ _ _ _ _ => id, fun _ _ _ => id, fun _ _ _ => id, fun _ _ => id⟩
  made_allocate {d role fields kind _ h} _ made := by
    simp only [Registry.allocate, Recorder.allocate] at made ⊢
    split at made
    · cases made
    · rename_i willing
      cases made
      rw [if_neg willing]
      exact ⟨rfl, rfl, by rw [buffer?_update_self]; rfl, fun x known =>
        isSome_buffer?_update (d := { d with nextId := d.nextId + 1 }) known _ _⟩
  made_resize {d x} h n known := by
    simp only [Registry.resize, Recorder.resize]
    split
    · exact known
    · split
      · exact known
      · exact isSome_buffer?_update known _ _
  made_upload {d x} h s known := by
    simp only [Registry.upload, Recorder.upload]
    split
    · exact known
    · exact isSome_buffer?_update known _ _
  resize_result {d h m n} _ room :=
    (d.resize_result h n).trans (by rw [room]; exact (ite_self _).symm)
  room_resize := room_resize
  upload_result {d h s} live := (d.result_of_known h fun _ => rfl).trans (if_pos live)

/-! ### What buffers hold -/

/-- What a buffer holds, if it is there. -/
def contents? (d : Recorder) (h : Handle) : Option Contents := (d.buffer? h).map (·.contents)

theorem contents?_update (d : Recorder) (h x : Handle) (b : RecordedBuffer) (o : Operation) :
    (d.update h b o).contents? x = if x.id = h.id then some b.contents else d.contents? x := by
  simp only [contents?, buffer?, Recorder.update, Table.get?_insert]
  split <;> rfl

theorem contents?_allocate {role : Role} {fields : List Field} {kind : Kind}
    (made : (d.allocate role fields kind).result = .ok h) :
    (d.allocate role fields kind).device.contents? h = some .none := by
  unfold Recorder.allocate at made ⊢
  split at made
  · cases made
  · rename_i willing
    cases made
    rw [if_neg willing]
    exact (contents?_update _ _ _ _ _).trans (if_pos rfl)

theorem contents?_allocate_other {role : Role} {fields : List Field} {kind : Kind} (sound : d.Sound)
    (live : (d.contents? x).isSome) :
    (d.allocate role fields kind).device.contents? x = d.contents? x := by
  unfold Recorder.allocate
  split
  · rfl
  · refine (contents?_update _ _ _ _ _).trans (if_neg fun same => ?_)
    -- the number of the new buffer was not in use
    rw [contents?, Option.isSome_map] at live
    obtain ⟨b, known⟩ := Option.isSome_iff_exists.mp live
    exact absurd (sound.issued known) (by rw [same]; exact Nat.lt_irrefl _)

theorem contents?_resize_other (other : x.id ≠ h.id) :
    (d.resize h n).device.contents? x = d.contents? x := by
  unfold Recorder.resize
  split
  · rfl
  · split
    · rfl
    · exact (contents?_update _ _ _ _ _).trans (if_neg other)

theorem contents?_upload {s : Source} (done : (d.upload h s).result = .ok ()) :
    (d.upload h s).device.contents? h = some (.bytes s.bytes) := by
  unfold Recorder.upload at done ⊢
  split
  · rename_i unknown
    rw [unknown] at done; cases done
  · exact (contents?_update _ _ _ _ _).trans (if_pos rfl)

end Recorder

/-! ## The device with limits -/

namespace Limited
variable {d : Limited} {h x : Handle} {n : Nat}

/-- A buffer is what its handle says. -/
structure Fits (b : LimitedBuffer) (h : Handle) : Prop where
  role : b.role = h.role
  usage : b.usage = Usage.ofKind h.kind
  stride : b.stride = paddedStride h.kind h.stride

/-- A buffer is there, and it is what its handle says. -/
def Made (d : Limited) (h : Handle) : Prop := ∃ b, d.buffer? h = some b ∧ Fits b h

theorem Made.put {b : LimitedBuffer} (made : d.Made x) (fits : h.id = x.id → Fits b x) :
    (d.put h b).Made x := by
  obtain ⟨b', known, hb'⟩ := made
  by_cases same : x.id = h.id
  · exact ⟨b, by rw [buffer?_put, if_pos same], fits same.symm⟩
  · exact ⟨b', by rw [buffer?_put, if_neg same, known], hb'⟩

theorem keeps_limits (l : Limits) : RegistryKeeps fun d : Limited => d.limits = l where
  allocate d role fields kind _ hd := (d.allocate_device role fields kind).2.trans hd
  resize d h n hd := (d.resize_device h n).2.trans hd
  upload d h s hd := (congrArg limits (d.upload_device h s)).trans hd
  destroy _ _ hd := hd

instance : ExactRegistry Limited where
  limits? d := some d.limits
  Made := Made
  keeps_limits? l := by
    have keep {d t : Limited} (hd : some d.limits = l) (same : t.limits = d.limits) :
        some t.limits = l := by rw [same, hd]
    exact ⟨fun d role fields kind hint hd => keep hd ((keeps_limits _).allocate d role fields kind hint rfl),
      fun d h n hd => keep hd ((keeps_limits _).resize d h n rfl),
      fun d h s hd => keep hd ((keeps_limits _).upload d h s rfl),
      fun d h hd => keep hd ((keeps_limits _).destroy d h rfl)⟩
  made_allocate {d role fields kind _ h} sound made := by
    simp only [Registry.allocate] at made ⊢
    rcases d.allocate_cases role fields kind with ⟨e, -, he⟩ | ⟨size, -, -, he⟩
    · rw [he] at made; cases made
    · rw [he] at made ⊢
      cases made
      refine ⟨rfl, rfl, ⟨_, by rw [buffer?_put, if_pos rfl], rfl, rfl, rfl⟩, fun x hx => ?_⟩
      refine Made.put hx fun same => ?_
      -- the number of the new buffer was not in use
      obtain ⟨b, known, -⟩ := hx
      have fresh := sound.fresh role fields kind
      rw [buffer?_congr d same, known] at fresh
      cases fresh
  made_resize {d x} h n made := by
    simp only [Registry.resize]
    rcases d.resize_cases h n with ⟨-, he⟩ | ⟨b, known, ⟨-, he⟩ | ⟨-, e, -, he⟩ | ⟨-, size, log, -, he⟩⟩
    · rw [he]; exact made
    · rw [he]; exact made
    · rw [he]; exact made
    · rw [he]
      refine made.put fun same => ?_
      obtain ⟨b', known', fits⟩ := made
      rw [buffer?_congr d same, known'] at known
      cases known
      exact ⟨fits.role, fits.usage, fits.stride⟩
  made_upload {d x} h s made := (d.upload_device h s).symm ▸ made
  resize_result {d h m n} made room := by
    obtain ⟨b, known, fits⟩ := made
    rw [capacity?_of_known known] at room
    cases room
    simp only [Registry.resize, Limited.resize, known, admits, fits.role, fits.usage, fits.stride]
    split
    · rfl
    · split <;> rename_i hc <;> rw [hc] <;> rfl
  room_resize done room := by
    obtain ⟨before, hb, ha⟩ := of_resize_ok done
    rw [room] at hb
    cases hb
    exact ha
  upload_result {d h s} live := (d.upload_result h s).trans (if_pos live)

end Limited

end Transparency.Device
