import Mathlib.Data.List.Perm.Basic
import Transparency.Proofs.Fragment.Arithmetic
import Transparency.Proofs.Fragment.Exact
import Transparency.Proofs.Frame.Quiet

/-!
# The recorded size is a maximum

On a device that never fails, the bundle records the larger value on each axis of all sizes that it was
asked for and granted, and whether it grants a size depends on that maximum.
-/

namespace Transparency

namespace Fragment
open Buffer (Handle)
open Device (Registry LawfulRegistry ExactRegistry Recorder Contents Features)
open Transparency.Frame (Session Context)
open Transparency.Frame.Session (Stocks)

/-! ## What the shaders are told -/

namespace Bundle
variable {bundle : Bundle} {s t : Session Recorder} {b : Buffers}

/-- What the shaders are told of a recorded size: nothing before the buffers have grown. -/
def told (size : Size) : Contents := if size = {} then .none else .bytes size.bytes

theorem contents?_of_allocateBuffers (sound : s.Sound) (he : allocateBuffers s = (.ok b, t)) :
    t.device.contents? b.uniforms = some (told {}) := by
  obtain ⟨held, -⟩ := of_allocateBuffers_ok sound he
  obtain ⟨u, v, hc, hr, ha⟩ := allocateBuffers_eq_ok he
  obtain ⟨-, fresh, hall, hnew⟩ := forall₂_of_allocateAll
    (Q := fun _ h (d : Recorder) => d.contents? h = some .none)
    (fun _ hr => Recorder.contents?_allocate hr)
    (fun sound hq _ => (Recorder.contents?_allocate_other sound (by rw [hq]; rfl)).trans hq) sound hc
  rw [List.nil_append] at hall
  subst hall
  simp only [Buffers.toList, Buffers.entries, List.map_cons, List.map_nil, bufferPlans,
    List.forall₂_cons] at hnew
  have ids := held.distinct
  simp only [Buffers.toList, Buffers.entries, List.map_cons, List.map_nil, List.nodup_cons,
    List.mem_cons, List.not_mem_nil, or_false, not_or] at ids
  have other : b.uniforms.id ≠ b.counter.id := Ne.symm ids.1.2.2.2
  rw [ha.device, (Session.of_absorb_ok hr).2.1]
  exact (Recorder.contents?_resize_other other).trans hnew.2.2.2.2.1

theorem contents?_of_growBuffers {size : Size} {caps : Capacities}
    (he : growBuffers b s size caps = (.ok (), t)) :
    t.device.contents? b.uniforms = some (.bytes size.bytes) := by
  rw [growBuffers_eq] at he
  split at he
  · cases he
  · obtain ⟨done, hd, -, -⟩ := Session.of_absorb_ok he
    rw [hd]
    exact Recorder.contents?_upload done

theorem contents?_of_grow (requested : Size) (hb : bundle.buffers = some b)
    (he : (bundle.grow s requested).result = .ok true) :
    (bundle.grow s requested).session.device.contents? b.uniforms =
      some (.bytes (bundle.grow s requested).bundle.size.bytes) := by
  unfold grow at he ⊢
  split at he
  · cases he
  · cases he
  · simp only [hb] at he ⊢
    split at he <;> rename_i hg
    · cases he
    · have told := contents?_of_growBuffers hg
      exact told

end Bundle

/-! ## Requests, and what was granted of them -/

/-- A request to a bundle. -/
inductive Request
  | prepare (requested : Size)
  | release
  deriving DecidableEq, Repr

/-- A bundle on a device that records, and the sizes granted since its buffers were last given back. -/
structure Ledger where
  bundle : Bundle := {}
  session : Session Recorder
  granted : List Size := []

namespace Ledger

/-- The ledger after a request. -/
def serve (l : Ledger) : Request → Ledger
  | .prepare requested =>
    { bundle := (l.bundle.prepare l.session requested).bundle
      session := (l.bundle.prepare l.session requested).session
      granted :=
        match (l.bundle.prepare l.session requested).result with
        | .ok () => l.granted ++ [requested]
        | .error _ => l.granted }
  | .release => { bundle := (l.bundle.release l.session).1, session := (l.bundle.release l.session).2 }

/-- The ledger of a new device after some requests. -/
def after (features : Features) (c : Context) (requests : List Request) : Ledger :=
  requests.foldl serve { session := { context := c, device := { features } } }

/-- What holds of a ledger. -/
structure Kept (l : Ledger) : Prop where
  sound : l.session.Sound
  willing : l.session.device.refusing = false
  exact : l.bundle.Exact l.session
  width : l.bundle.size.width.toInt = (l.granted.map (·.width.toInt)).foldl max 0
  height : l.bundle.size.height.toInt = (l.granted.map (·.height.toInt)).foldl max 0
  told : ∀ b, l.bundle.buffers = some b →
    l.session.device.contents? b.uniforms = some (Bundle.told l.bundle.size)
  made : l.granted ≠ [] → l.bundle.isAllocated = true

/-- The ledger once the buffers are made and in the frame context. -/
def opened (l : Ledger) : Ledger :=
  { l with bundle := (l.bundle.ensure l.session).bundle, session := l.bundle.opened l.session }

variable {l : Ledger}

theorem opened_of_allocated {b : Buffers} (hb : l.bundle.buffers = some b) :
    l.opened.bundle = l.bundle ∧ l.opened.session.device = l.session.device := by
  have he : l.bundle.ensure l.session = { result := .ok b, bundle := l.bundle, session := l.session } := by
    rw [Bundle.ensure, hb]
  refine ⟨by rw [opened, he], ?_⟩
  simp only [opened, Bundle.opened, he]
  rfl

/-- What is in the frame context does not matter. -/
theorem Kept.congr {l' : Ledger} (h : l.Kept) (bundle : l'.bundle = l.bundle)
    (device : l'.session.device = l.session.device) (granted : l'.granted = l.granted) : l'.Kept := by
  have rooms : l'.session.room = l.session.room := Session.room_of_device device
  refine ⟨?_, ?_, ?_, ?_, ?_, ?_, ?_⟩
  · rw [Session.Sound, device]; exact h.sound
  · rw [device]; exact h.willing
  · rw [bundle]
    refine ⟨h.exact.nonneg, h.exact.unallocated, fun b hb => ?_⟩
    exact (h.exact.allocated b hb).transfer rooms fun x => by rw [device]; exact id
  · rw [bundle, granted]; exact h.width
  · rw [bundle, granted]; exact h.height
  · rw [bundle, device]; exact h.told
  · rw [bundle, granted]; exact h.made

theorem Kept.opened_of_unallocated (h : l.Kept) (hb : l.bundle.buffers = none) :
    l.opened.Kept ∧ l.opened.bundle.size = l.bundle.size ∧
      ∃ b, (l.bundle.ensure l.session).result = .ok b ∧ l.opened.bundle.buffers = some b := by
  obtain ⟨b, t, ha⟩ := allocateBuffers_of_willing Recorder.willing_refusing h.willing h.sound
  have he : l.bundle.ensure l.session =
      { result := .ok b, bundle := { buffers := some b }, session := t } := by
    rw [Bundle.ensure, hb, ha]
  have hs := allocateBuffers_stocks l.session
  rw [ha] at hs
  have empty := h.exact.unallocated hb
  have exact := (h.exact.ensure h.sound).withContext
    ((l.bundle.ensure l.session).bundle.publish (l.bundle.ensure l.session).session.context)
  refine ⟨⟨?_, ?_, exact, ?_, ?_, ?_, ?_⟩, ?_, b, by rw [he], ?_⟩ <;>
    simp only [Ledger.opened, Bundle.opened, he]
  · exact hs.sound h.sound
  · exact hs.device Recorder.willing_refusing.toRegistryKeeps h.willing
  · rw [← h.width, empty]
  · rw [← h.height, empty]
  · intro b' hb'
    cases hb'
    have told := Bundle.contents?_of_allocateBuffers h.sound ha
    exact told
  · exact fun _ => rfl
  · rw [empty]

theorem Kept.opened (h : l.Kept) : l.opened.Kept ∧ l.opened.bundle.size = l.bundle.size ∧
    ∃ b, (l.bundle.ensure l.session).result = .ok b ∧ l.opened.bundle.buffers = some b := by
  cases hb : l.bundle.buffers with
  | none => exact h.opened_of_unallocated hb
  | some b =>
      obtain ⟨same, device⟩ := opened_of_allocated hb
      exact ⟨h.congr same device rfl, by rw [same], b, by rw [Bundle.ensure, hb], by rw [same, hb]⟩

/-! ## What a request comes to -/

/-- What becomes of a size that is asked for. -/
inductive Answer (l : Ledger) (requested : Size) : Outcome Recorder Unit → Prop
  | negative : requested.isNegative = true →
      Answer l requested
        { result := .error (.invalidSize requested), bundle := l.bundle, session := l.session }
  | covered : requested.isNegative = false → l.bundle.size.covers requested = true →
      Answer l requested
        { result := .ok (), bundle := l.opened.bundle, session := l.opened.session }
  | overflow : requested.isNegative = false → l.bundle.size.covers requested = false →
      ¬ Capacities.Countable (requested.sup l.bundle.size) →
      Answer l requested
        { result := .error (.capacityOverflow (requested.sup l.bundle.size))
          bundle := l.opened.bundle, session := l.opened.session }
  | grown {bundle : Bundle} {t : Session Recorder} : requested.isNegative = false →
      l.bundle.size.covers requested = false → Capacities.Countable (requested.sup l.bundle.size) →
      bundle.size = requested.sup l.bundle.size → bundle.isAllocated = true → bundle.Exact t →
      Stocks l.session t →
      (∀ b, bundle.buffers = some b → t.device.contents? b.uniforms = some (Bundle.told bundle.size)) →
      Answer l requested { result := .ok (), bundle, session := t }

theorem opened_stocks (l : Ledger) : Stocks l.session l.opened.session :=
  (l.bundle.ensure_stocks l.session).withContext _

theorem Kept.answer (h : l.Kept) (requested : Size) :
    l.Answer requested (l.bundle.prepare l.session requested) := by
  cases negative : requested.isNegative with
  | true =>
      rw [Bundle.prepare, negative, if_pos rfl]
      exact .negative negative
  | false =>
      obtain ⟨kept, size, b, made, hb⟩ := h.opened
      have growth := kept.exact.growth hb requested
      have stocks := l.opened_stocks.trans (l.opened.bundle.grow_stocks requested l.opened.session)
      have told := Bundle.contents?_of_grow (s := l.opened.session) requested hb
      rw [Bundle.prepare_eq_grow negative made]
      change l.Answer requested
        { result := (l.opened.bundle.grow l.opened.session requested).result.map fun _ => ()
          bundle := (l.opened.bundle.grow l.opened.session requested).bundle
          session := (l.opened.bundle.grow l.opened.session requested).session }
      generalize l.opened.bundle.grow l.opened.session requested = outcome at growth stocks told
      cases growth with
      | negative nonneg => rw [negative] at nonneg; cases nonneg
      | covered _ covered => exact .covered negative (size ▸ covered)
      | overflow _ covered countable =>
          rw [size] at covered countable ⊢
          exact .overflow negative covered countable
      | refused _ _ _ limited => cases limited
      | grown _ covered countable exact =>
          rw [size] at covered countable
          refine .grown negative covered countable (by rw [size]) (by rw [Bundle.isAllocated, hb]; rfl)
            exact stocks fun b' hb' => ?_
          cases hb.symm.trans hb'
          have larger : requested.sup l.bundle.size ≠ {} :=
            requested.sup_ne_empty _ h.exact.nonneg (by rw [covered]; exact Bool.false_ne_true)
          have holds := told rfl
          rw [Bundle.told, size, if_neg larger, holds, size]

/-- The fold of a list with one more entry. -/
theorem foldl_max_concat (l : Ledger) (axis : Size → Int) (requested : Size) :
    ((l.granted ++ [requested]).map axis).foldl max 0 =
      max ((l.granted.map axis).foldl max 0) (axis requested) := by
  rw [List.map_append, List.foldl_append]
  rfl

theorem Kept.serve (h : l.Kept) (request : Request) : (l.serve request).Kept := by
  cases request with
  | release =>
      have hs := l.bundle.release_stocks l.session
      have gone : (l.bundle.release l.session).1 = {} := by
        unfold Bundle.release
        split <;> rfl
      refine ⟨hs.sound h.sound, hs.device Recorder.willing_refusing.toRegistryKeeps h.willing,
        Bundle.exact_release _ _, ?_, ?_, ?_, fun nonempty => absurd rfl nonempty⟩
      · simp only [Ledger.serve, gone]; rfl
      · simp only [Ledger.serve, gone]; rfl
      · simp only [Ledger.serve, gone]
        intro b hb
        cases hb
  | prepare requested =>
      have answer := h.answer requested
      obtain ⟨kept, size, b, -, hb⟩ := h.opened
      simp only [Ledger.serve]
      generalize l.bundle.prepare l.session requested = outcome at answer
      cases answer with
      | negative => exact h
      | overflow => exact kept
      | covered nonneg covered =>
          obtain ⟨hw, hh⟩ := (Size.covers_iff _ _).mp covered
          refine ⟨kept.sound, kept.willing, kept.exact, ?_, ?_, kept.told, fun _ => ?_⟩
          · rw [foldl_max_concat, size, ← h.width, Int.max_eq_left hw]
          · rw [foldl_max_concat, size, ← h.height, Int.max_eq_left hh]
          · rw [Bundle.isAllocated, hb]; rfl
      | grown nonneg covered countable size allocated exact stocks told =>
          refine ⟨stocks.sound h.sound,
            stocks.device Recorder.willing_refusing.toRegistryKeeps h.willing, exact, ?_, ?_, told,
            fun _ => allocated⟩
          · rw [foldl_max_concat, size, ← h.width, Size.toInt_width_sup, Int.max_comm]
          · rw [foldl_max_concat, size, ← h.height, Size.toInt_height_sup, Int.max_comm]

theorem kept_after (features : Features) (c : Context) (requests : List Request) :
    (after features c requests).Kept := by
  have foldl {l : Ledger} (h : l.Kept) : (requests.foldl Ledger.serve l).Kept := by
    induction requests generalizing l with
    | nil => exact h
    | cons request requests ih => exact ih (h.serve request)
  apply foldl
  exact ⟨fun id live => by simp [Table.get?_empty] at live, rfl, Bundle.exact_empty _, rfl, rfl,
    (by intro b hb; cases hb), fun nonempty => absurd rfl nonempty⟩

/-! ## The law -/

/-- The recorded size is a maximum, it determines the buffers, and it decides what is granted next. -/
structure Maximal (l : Ledger) : Prop where
  width : l.bundle.size.width.toInt = (l.granted.map (·.width.toInt)).foldl max 0
  height : l.bundle.size.height.toInt = (l.granted.map (·.height.toInt)).foldl max 0
  counters : ∀ b, l.bundle.buffers = some b →
    l.session.room b.counter = some (l.bundle.size.columns * l.bundle.size.rows + 1)
  fragments : ∀ b, l.bundle.buffers = some b → ∀ x ∈ [b.indices, b.data, b.depth],
    l.session.room x = some (8 * (l.bundle.size.columns * l.bundle.size.rows))
  /-- A size is refused if an axis is negative, or if the buffers would have to grow beyond counting. -/
  refused_iff : ∀ requested : Size,
    (∃ e, (l.bundle.prepare l.session requested).result = .error e) ↔
      (requested.width.toInt < 0 ∨ requested.height.toInt < 0) ∨
      ((l.bundle.size.width.toInt < requested.width.toInt ∨
          l.bundle.size.height.toInt < requested.height.toInt) ∧
        2 ^ 64 ≤ 8 * (max requested.width.toInt l.bundle.size.width.toInt *
          max requested.height.toInt l.bundle.size.height.toInt))
  /-- A size that is refused changes nothing of buffers that are made. -/
  refused : ∀ requested e, (l.bundle.prepare l.session requested).result = .error e →
    l.bundle.isAllocated = true → (l.bundle.prepare l.session requested).bundle = l.bundle ∧
      (l.bundle.prepare l.session requested).session.device = l.session.device
  /-- Nothing is done for a size that buffers that are made have room for. -/
  covered : ∀ requested : Size, requested.isNegative = false → l.bundle.size.covers requested = true →
    l.bundle.isAllocated = true → (l.bundle.prepare l.session requested).result = .ok () ∧
      (l.bundle.prepare l.session requested).bundle = l.bundle ∧
      (l.bundle.prepare l.session requested).session.device = l.session.device

theorem Kept.refused_iff (h : l.Kept) (requested : Size) :
    (∃ e, (l.bundle.prepare l.session requested).result = .error e) ↔
      (requested.width.toInt < 0 ∨ requested.height.toInt < 0) ∨
      ((l.bundle.size.width.toInt < requested.width.toInt ∨
          l.bundle.size.height.toInt < requested.height.toInt) ∧
        2 ^ 64 ≤ 8 * (max requested.width.toInt l.bundle.size.width.toInt *
          max requested.height.toInt l.bundle.size.height.toInt)) := by
  have answer := h.answer requested
  generalize l.bundle.prepare l.session requested = outcome at answer
  cases answer with
  | negative negative =>
      exact ⟨fun _ => Or.inl (requested.isNegative_iff.mp negative), fun _ => ⟨_, rfl⟩⟩
  | covered nonneg covered =>
      have hs := (requested.not_isNegative_iff).mp nonneg
      have hc := (Size.covers_iff _ _).mp covered
      constructor
      · rintro ⟨e, he⟩
        cases he
      · rintro (negative | ⟨larger, -⟩)
        · omega
        · omega
  | overflow nonneg covered countable =>
      have hc := mt (Size.covers_iff _ _).mpr (Bool.eq_false_iff.mp covered)
      rw [Capacities.countable_sup_iff nonneg, Int.not_lt] at countable
      exact ⟨fun _ => Or.inr ⟨by omega, countable⟩, fun _ => ⟨_, rfl⟩⟩
  | grown nonneg covered countable =>
      have hs := (requested.not_isNegative_iff).mp nonneg
      rw [Capacities.countable_sup_iff nonneg] at countable
      constructor
      · rintro ⟨e, he⟩
        cases he
      · rintro (negative | ⟨-, large⟩)
        · omega
        · exact absurd countable (Int.not_lt.mpr large)

theorem Kept.maximal (h : l.Kept) : l.Maximal where
  width := h.width
  height := h.height
  counters b hb := (h.exact.allocated b hb).counters
  fragments b hb := (h.exact.allocated b hb).fragments
  refused_iff := h.refused_iff
  refused requested e failed allocated := by
    obtain ⟨b, hb⟩ := Option.isSome_iff_exists.mp allocated
    obtain ⟨same, device⟩ := opened_of_allocated hb
    have answer := h.answer requested
    generalize l.bundle.prepare l.session requested = outcome at answer failed
    cases answer with
    | negative => exact ⟨rfl, rfl⟩
    | overflow => exact ⟨same, device⟩
    | covered => cases failed
    | grown => cases failed
  covered requested nonneg covered allocated := by
    obtain ⟨b, hb⟩ := Option.isSome_iff_exists.mp allocated
    obtain ⟨same, device⟩ := opened_of_allocated hb
    have answer := h.answer requested
    generalize l.bundle.prepare l.session requested = outcome at answer
    cases answer with
    | negative negative => rw [negative] at nonneg; cases nonneg
    | covered => exact ⟨rfl, same, device⟩
    | overflow _ uncovered => rw [uncovered] at covered; cases covered
    | grown _ uncovered => rw [uncovered] at covered; cases covered

/-- Two ledgers end alike: the same size is recorded, and the buffers have the same room and tell the
shaders the same. -/
structure EndsLike (l l' : Ledger) : Prop where
  size : l.bundle.size = l'.bundle.size
  allocated : l.bundle.isAllocated = l'.bundle.isAllocated
  rooms : ∀ b b', l.bundle.buffers = some b → l'.bundle.buffers = some b' →
    b.toList.map l.session.room = b'.toList.map l'.session.room
  told : ∀ b b', l.bundle.buffers = some b → l'.bundle.buffers = some b' →
    l.session.device.contents? b.uniforms = l'.session.device.contents? b'.uniforms

theorem Kept.size_congr {l' : Ledger} (h : l.Kept) (h' : l'.Kept) (perm : l.granted.Perm l'.granted) :
    l.bundle.size = l'.bundle.size := by
  have width : l.bundle.size.width.toInt = l'.bundle.size.width.toInt := by
    rw [h.width, h'.width]
    exact (perm.map _).foldl_eq _
  have height : l.bundle.size.height.toInt = l'.bundle.size.height.toInt := by
    rw [h.height, h'.height]
    exact (perm.map _).foldl_eq _
  rw [Int32.toInt_inj] at width height
  cases hs : l.bundle.size
  cases hs' : l'.bundle.size
  rw [hs, hs'] at width height
  cases width
  cases height
  rfl

/-- The bundle on the device records the larger value on each axis of what it granted, and where all that
is asked for is granted, the order does not matter. -/
theorem maximal_after (features : Features) (c : Context) :
    (∀ requests, (after features c requests).Maximal) ∧
    ∀ sizes sizes' : List Size, sizes.Perm sizes' →
      (after features c (sizes.map .prepare)).granted = sizes →
      (after features c (sizes'.map .prepare)).granted = sizes' →
      (after features c (sizes.map .prepare)).EndsLike (after features c (sizes'.map .prepare)) := by
  refine ⟨fun requests => (kept_after features c requests).maximal, fun sizes sizes' perm all all' => ?_⟩
  have kept := kept_after features c (sizes.map .prepare)
  have kept' := kept_after features c (sizes'.map .prepare)
  have size : (after features c (sizes.map .prepare)).bundle.size =
      (after features c (sizes'.map .prepare)).bundle.size :=
    kept.size_congr kept' (by rw [all, all']; exact perm)
  refine ⟨size, ?_, fun b b' hb hb' => ?_, fun b b' hb hb' => ?_⟩
  · cases sizes with
    | nil => rw [perm.nil_eq]
    | cons first rest =>
        have nonempty : sizes' ≠ [] := fun empty => List.cons_ne_nil _ _ (empty ▸ perm).eq_nil
        rw [kept.made (by rw [all]; exact List.cons_ne_nil _ _), kept'.made (by rw [all']; exact nonempty)]
  · rw [(kept.exact.allocated b hb).rooms, (kept'.exact.allocated b' hb').rooms, size]
  · rw [kept.told b hb, kept'.told b' hb', size]

theorem maximal_after_both_orders :
    (after .all .empty [.prepare ⟨4, 3⟩, .prepare ⟨2, 5⟩]).EndsLike
      (after .all .empty [.prepare ⟨2, 5⟩, .prepare ⟨4, 3⟩]) ∧
    (after .all .empty [.prepare ⟨4, 3⟩, .prepare ⟨2, 5⟩]).bundle.size = ⟨4, 5⟩ :=
  ⟨(maximal_after .all .empty).2 [⟨4, 3⟩, ⟨2, 5⟩] [⟨2, 5⟩, ⟨4, 3⟩] (.swap _ _ _) rfl rfl, rfl⟩

end Ledger

end Fragment

end Transparency
