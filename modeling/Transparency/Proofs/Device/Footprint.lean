import Mathlib.Algebra.Ring.Nat
import Transparency.Proofs.Device.ByteLimits
import Transparency.Proofs.Device.Requests

/-!
# The bytes of buffers

A buffer keeps its stride, its capacity and its bytes side by side. They agree after all calls, and the bytes
stay within the limits of the device.
-/

namespace Transparency.Device
open Buffer (Role Kind Field UsageHint Handle)

/-- The stride of a handle is the sum of the bytes of its fields. -/
theorem Handle.stride_eq_sum (h : Handle) : h.stride = (h.fields.map (·.element.size)).sum := by
  simp only [Buffer.Handle.stride, List.sum, List.foldr_map]

/-- Strides of uniform buffers are rounded up to a multiple of sixteen. -/
theorem paddedStride_uniform (n : Nat) :
    16 ∣ paddedStride .uniform n ∧ n ≤ paddedStride .uniform n ∧ paddedStride .uniform n < n + 16 := by
  simp only [paddedStride]
  omega

/-! ## Counts that stop at the largest one -/

namespace Limits
variable {limits : Limits} {role : Role} {kind : Kind} {stride n size : Nat}

/-- The limits of a device that counts the bytes of uniform bindings in a short word. -/
def ofWords (bufferSize storageBinding : UInt64) (uniformBinding : UInt32) : Limits where
  bufferSize := bufferSize.toNat
  storageBinding := storageBinding.toNat
  uniformBinding := uniformBinding.toNat

/-- The limit on the bytes that a pass binds at once. -/
def binding (limits : Limits) : Kind → Nat
  | .storage => limits.storageBinding
  | .uniform => limits.uniformBinding

theorem bound_ofKind (limits : Limits) (kind : Kind) :
    limits.bound (Usage.ofKind kind) = min limits.bufferSize (limits.binding kind) := by
  cases kind <;> rfl

/-- A count that stopped at the largest one is over the limits. -/
def Countable (limits : Limits) : Prop := ∀ kind, min limits.bufferSize (limits.binding kind) < maxByteCount

theorem countable_ofWords {bufferSize storageBinding : UInt64} (uniformBinding : UInt32)
    (h : min bufferSize.toNat storageBinding.toNat < maxByteCount) :
    (ofWords bufferSize storageBinding uniformBinding).Countable
  | .storage => h
  | .uniform => by
      have short : uniformBinding.toNat < maxByteCount :=
        Nat.lt_trans uniformBinding.toNat_lt (by decide)
      exact Nat.lt_of_le_of_lt (Nat.min_le_right _ _) short

/-- What is within such limits was not stopped, so that it is the product. -/
theorem Countable.of_check_ok (countable : limits.Countable)
    (h : limits.check role (Usage.ofKind kind) stride n = .ok size) :
    size = stride * max n 1 ∧ size < maxByteCount ∧ size ≤ limits.bufferSize ∧
      size ≤ limits.binding kind := by
  have below := countable kind
  have seen : ¬limits.Overlooks (Usage.ofKind kind) stride n := fun overlooks => by
    have wide := le_bound_iff.mpr overlooks.2
    rw [bound_ofKind] at wide
    omega
  obtain ⟨within, exact⟩ := ((checksExactly_of_not_overlooks seen).accepts size).mp h
  rw [← le_bound_iff, bound_ofKind, ← exact] at within
  exact ⟨exact, by omega⟩

end Limits

namespace Limited
variable {d : Limited} {h : Handle} {n : Nat}

theorem positive_of_admission {role : Role} {fields : List Field} {kind : Kind}
    (willing : d.admission role fields kind = .ok ()) :
    paddedStride kind (d.issue role fields kind).1.stride ≠ 0 := by
  unfold admission at willing
  split at willing
  · cases willing
  · rename_i positive
    exact positive

theorem resize_device_of_error {e : Error} (failed : (d.resize h n).result = .error e) :
    (d.resize h n).device = d := by
  rcases d.resize_cases h n with ⟨-, he⟩ | ⟨b, -, ⟨-, he⟩ | ⟨-, e, -, he⟩ | ⟨-, size, log, -, he⟩⟩
  · rw [he]; rfl
  · rw [he]; rfl
  · rw [he]; rfl
  · rw [he] at failed; cases failed

theorem isBacked_iff : d.isBacked = true ↔ ∀ id b, d.buffers.get? id = some b → b.size ≤ maxMemory := by
  simp only [isBacked, List.all_eq_true, Prod.forall, Table.mem_entries_iff, decide_eq_true_eq]

/-- There is no memory for the room that the check of a buffer overlooks. -/
theorem not_isBacked_of_overlooks {b : LimitedBuffer} (known : d.buffer? h = some b) (more : b.capacity < n)
    (overlooks : d.limits.Overlooks b.usage b.stride n) : (d.resize h n).device.isBacked = false := by
  rcases d.resize_cases h n with ⟨missing, -⟩ | ⟨b', known', ⟨enough, -⟩ | ⟨-, e, hc, -⟩ | ⟨-, size, log, hc, he⟩⟩
  · rw [known] at missing
    cases missing
  all_goals
    rw [known] at known'
    cases known'
  · omega
  · rw [Limits.check_of_overlooks overlooks] at hc
    cases hc
  · rw [Limits.check_of_overlooks overlooks] at hc
    cases hc
    rw [he]
    refine Bool.eq_false_iff.mpr fun backed => ?_
    have fits : maxByteCount ≤ maxMemory :=
      isBacked_iff.mp backed h.id (grownBuffer b n maxByteCount) (by simp [Reply.done, Limited.put])
    exact absurd fits (by decide)

end Limited

/-! ## What a buffer takes -/

/-- The buffer behind a handle has a stride for its fields, and it takes the bytes of all elements for which it
has room, of one element at least; they can be counted, kept and bound. -/
structure Footprint (limits : Limits) (h : Handle) (b : LimitedBuffer) : Prop where
  usage : b.usage = Usage.ofKind h.kind
  storage : h.kind = .storage → b.stride = (h.fields.map (·.element.size)).sum
  uniform : h.kind = .uniform → 16 ∣ b.stride ∧ (h.fields.map (·.element.size)).sum ≤ b.stride ∧
    b.stride < (h.fields.map (·.element.size)).sum + 16
  positive : 0 < b.stride
  size : b.size = b.stride * max b.capacity 1
  counted : b.size < maxByteCount
  kept : b.size ≤ limits.bufferSize
  bound : b.size ≤ limits.binding h.kind

namespace Footprint
variable {limits : Limits} {role : Role} {kind : Kind} {h : Handle} {b : LimitedBuffer} {n size : Nat}

theorem newBuffer (countable : limits.Countable) (hk : h.kind = kind)
    (positive : paddedStride kind h.stride ≠ 0)
    (hc : limits.check role (Usage.ofKind kind) (paddedStride kind h.stride) (initialCapacity kind) =
      .ok size) : Footprint limits h (Limited.newBuffer role kind h size) := by
  subst hk
  obtain ⟨product, counted, kept, bound⟩ := countable.of_check_ok hc
  refine ⟨rfl, fun hk => ?_, fun hk => ?_, Nat.pos_of_ne_zero positive, product, counted, kept, bound⟩
  · rw [← Handle.stride_eq_sum, Limited.newBuffer, hk]
    rfl
  · rw [← Handle.stride_eq_sum, Limited.newBuffer, hk]
    exact paddedStride_uniform _

/-- Growth replaces capacity and bytes together. -/
theorem grownBuffer (countable : limits.Countable) (before : Footprint limits h b)
    (hc : limits.check b.role b.usage b.stride n = .ok size) :
    Footprint limits h (Limited.grownBuffer b n size) := by
  rw [before.usage] at hc
  obtain ⟨product, counted, kept, bound⟩ := countable.of_check_ok hc
  exact ⟨before.usage, before.storage, before.uniform, before.positive, product, counted, kept, bound⟩

end Footprint

/-! ## All buffers of a device -/

/-- A device, and the handles to all buffers that it ever made. -/
structure Inventory where
  device : Limited
  made : List Handle := []

namespace Inventory

/-- Asks the device for something; the handle to a new buffer is taken down. -/
def step (i : Inventory) (r : Request Handle) : Inventory where
  device := (r.perform i.device).2
  made := match r with
    | .allocate .. => (r.perform i.device).1.handle?.toList ++ i.made
    | _ => i.made

/-- Asks for one thing after another. -/
def run (i : Inventory) (script : List (Request Handle)) : Inventory := script.foldl step i

/-- Every buffer of the device was made under one handle, and it takes what that handle says. -/
structure Accurate (limits : Limits) (i : Inventory) : Prop where
  limits_eq : i.device.limits = limits
  issued : ∀ h ∈ i.made, h.id < i.device.nextId
  owned : ∀ id b, i.device.buffers.get? id = some b → ∃ h ∈ i.made, h.id = id
  fits : ∀ h ∈ i.made, ∀ b, i.device.buffer? h = some b → Footprint limits h b

namespace Accurate
variable {limits : Limits} {i : Inventory} {d : Limited} {h : Handle}

/-- What leaves the buffers alone leaves them accurate. -/
theorem of_same_buffers (acc : Accurate limits i) (hl : d.limits = i.device.limits)
    (hn : i.device.nextId ≤ d.nextId) (hb : d.buffers = i.device.buffers) :
    Accurate limits { device := d, made := i.made } where
  limits_eq := hl.trans acc.limits_eq
  issued h hh := Nat.lt_of_lt_of_le (acc.issued h hh) hn
  owned id b hid := acc.owned id b (hb ▸ hid)
  fits h hh b known := acc.fits h hh b (by rw [Limited.buffer?, ← hb]; exact known)

theorem allocate (acc : Accurate limits i) (countable : limits.Countable) (name : Nat) (role : Role)
    (fields : List Field) (kind : Kind) (hint : UsageHint) :
    Accurate limits (i.step (.allocate name role fields kind hint)) := by
  simp only [step, Request.perform, Reply.outcome, Registry.allocate]
  rcases i.device.allocate_cases role fields kind with ⟨e, -, he⟩ | ⟨size, willing, hc, he⟩
  · rw [he]
    exact acc.of_same_buffers rfl (Nat.le_succ _) rfl
  · rw [he]
    have positive := Limited.positive_of_admission willing
    refine ⟨acc.limits_eq, fun h hh => ?_, fun id b hid => ?_, fun h hh b known => ?_⟩
    · rcases List.mem_cons.mp hh with rfl | older
      · exact Nat.lt_succ_self _
      · exact Nat.lt_succ_of_lt (acc.issued h older)
    · simp only [Limited.put, Table.get?_insert] at hid
      split at hid
      · rename_i same
        exact ⟨_, List.mem_cons_self, same.symm⟩
      · obtain ⟨h, hh, rfl⟩ := acc.owned id b hid
        exact ⟨h, List.mem_cons_of_mem _ hh, rfl⟩
    · rw [Limited.buffer?_put] at known
      rcases List.mem_cons.mp hh with rfl | older
      · rw [if_pos rfl] at known
        cases known
        exact .newBuffer countable rfl positive (acc.limits_eq ▸ hc)
      · -- the number of the new buffer is above all others
        have other : h.id ≠ (i.device.issue role fields kind).1.id := Nat.ne_of_lt (acc.issued h older)
        rw [if_neg other] at known
        exact acc.fits h older b known

theorem resize (acc : Accurate limits i) (countable : limits.Countable) (h : Handle) (n : Nat) :
    Accurate limits (i.step (.resize h n)) := by
  simp only [step, Request.perform, Reply.outcome, Registry.resize]
  rcases i.device.resize_cases h n with ⟨-, he⟩ | ⟨b, known, ⟨-, he⟩ | ⟨-, e, -, he⟩ |
    ⟨-, size, log, hc, he⟩⟩
  · rw [he]; exact acc
  · rw [he]; exact acc
  · rw [he]; exact acc
  · rw [he]
    refine ⟨acc.limits_eq, acc.issued, fun id b' hid => ?_, fun h' hh b' known' => ?_⟩
    · simp only [Reply.done, Limited.put, Table.get?_insert] at hid
      split at hid
      · rename_i same
        exact acc.owned id b (same ▸ known)
      · exact acc.owned id b' hid
    · simp only [Reply.done, Limited.buffer?_put] at known'
      split at known'
      · rename_i same
        cases known'
        have before := acc.fits h' hh b ((i.device.buffer?_congr same).trans known)
        exact before.grownBuffer countable (acc.limits_eq ▸ hc)
      · exact acc.fits h' hh b' known'

theorem destroy (acc : Accurate limits i) (h : Handle) : Accurate limits (i.step (.destroy h)) where
  limits_eq := acc.limits_eq
  issued := acc.issued
  owned id b hid := by
    simp only [step, Request.perform, Registry.destroy, Limited.destroy, Table.get?_erase] at hid
    split at hid
    · cases hid
    · exact acc.owned id b hid
  fits h' hh b known := by
    simp only [step, Request.perform, Registry.destroy, Limited.buffer?_destroy] at known
    split at known
    · cases known
    · exact acc.fits h' hh b known

theorem step (acc : Accurate limits i) (countable : limits.Countable) (r : Request Handle) :
    Accurate limits (i.step r) := by
  cases r with
  | allocate name role fields kind hint => exact acc.allocate countable name role fields kind hint
  | issue name role fields kind => exact acc.of_same_buffers rfl (Nat.le_succ _) rfl
  | resize h n => exact acc.resize countable h n
  | upload h source =>
      have same : ((Request.upload h source).perform i.device).2 = i.device := i.device.upload_device h source
      simp only [Inventory.step, same]
      exact acc
  | destroy h => exact acc.destroy h
  | capacity h => exact acc
  | fill h value =>
      have same : ((Request.fill h value).perform i.device).2 = i.device := i.device.fill_device h value
      simp only [Inventory.step, same]
      exact acc
  | draw label shader state slots targets =>
      obtain ⟨hb, hn, hl⟩ := i.device.draw_device ⟨label, shader, state, slots.map (·.bound), targets⟩
      exact acc.of_same_buffers hl (Nat.le_of_eq hn.symm) hb

theorem run (acc : Accurate limits i) (countable : limits.Countable) (script : List (Request Handle)) :
    Accurate limits (i.run script) := by
  induction script generalizing i with
  | nil => exact acc
  | cons r rest ih => exact ih (acc.step countable r)

end Accurate

theorem accurate_ofLimits (limits : Limits) (stageBuffers : Nat) (targets : List TargetId) :
    Accurate limits { device := { Limited.ofLimits limits stageBuffers with targets } } where
  limits_eq := rfl
  issued h hh := by cases hh
  owned id b hid := by cases hid
  fits h hh := by cases hh

/-- Whatever is asked of a device with limits, every buffer that it has is one that it made, with the stride
that its handle says, and takes the bytes that stride and capacity say, which are within the limits; what
fails to grow stays as it is. -/
theorem footprint_of_made (bufferSize storageBinding : UInt64) (uniformBinding : UInt32)
    (countable : min bufferSize.toNat storageBinding.toNat < UInt64.size - 1) (stageBuffers : Nat)
    (targets : List TargetId) (script : List (Request Handle)) :
    let limits := Limits.ofWords bufferSize storageBinding uniformBinding
    let i := run { device := { Limited.ofLimits limits stageBuffers with targets } } script
    (∀ id b, i.device.buffers.get? id = some b → ∃ h ∈ i.made, h.id = id) ∧
    (∀ h ∈ i.made, ∀ b, i.device.buffer? h = some b → Footprint limits h b) ∧
    ∀ h n e, (i.device.resize h n).result = .error e → (i.device.resize h n).device = i.device := by
  intro limits i
  have acc : Accurate limits i := (accurate_ofLimits limits stageBuffers targets).run
    (Limits.countable_ofWords uniformBinding countable) script
  exact ⟨acc.owned, acc.fits, fun h n e failed => Limited.resize_device_of_error failed⟩

/-- As long as the limits keep buffers within the memory that there can be, every buffer has its memory. -/
theorem isBacked_of_made (limits : Limits) (within : limits.bufferSize ≤ maxMemory) (stageBuffers : Nat)
    (targets : List TargetId) (script : List (Request Handle)) :
    (run { device := { Limited.ofLimits limits stageBuffers with targets } } script).device.isBacked = true := by
  have countable : limits.Countable := fun kind =>
    Nat.lt_of_le_of_lt (Nat.le_trans (Nat.min_le_left _ _) within) (by decide)
  have acc := (accurate_ofLimits limits stageBuffers targets).run countable script
  refine Limited.isBacked_iff.mpr fun id b known => ?_
  obtain ⟨h, hh, rfl⟩ := acc.owned id b known
  exact Nat.le_trans (acc.fits h hh b known).kept within

/-- A buffer of colors, the second one that is made. -/
def colors : Handle := ⟨2, .data, .storage, [⟨"color", .float32x4⟩]⟩

/-- Twelve bytes of a uniform buffer are padded to sixteen. The colors may grow to four elements, not to five,
and no buffer is made without fields. -/
def smallRequests : List (Request Handle) :=
  [.allocate 0 .uniforms [⟨"size", .int32x2⟩, ⟨"levels", .int32⟩] .uniform {},
    .allocate 1 .data colors.fields .storage {}, .resize colors 4, .resize colors 5,
    .allocate 2 .depth [] .storage {}]

theorem footprint_of_small_buffers :
    let limits := Limits.ofWords 64 100 32
    let i := run { device := Limited.ofLimits limits 8 } smallRequests
    i.device.buffers.entries.map (fun e => (e.1, e.2.stride, e.2.capacity, e.2.size)) =
      [(1, 16, 1, 16), (2, 16, 4, 64)] ∧
    (i.device.resize colors 5).result = .error (.bufferTooLarge .data 80 64) ∧
    (i.device.resize colors 5).device = i.device ∧
    ∀ h ∈ i.made, ∀ b, i.device.buffer? h = some b → Footprint limits h b :=
  have bound := footprint_of_made 64 100 32 (by decide) 8 [] smallRequests
  ⟨rfl, rfl, bound.2.2 colors 5 _ rfl, bound.2.1⟩

end Inventory

end Transparency.Device
