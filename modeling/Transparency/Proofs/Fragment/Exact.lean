import Transparency.Proofs.Device.Exact
import Transparency.Proofs.Fragment.Consistency

/-!
# Growth without faults

On a device on which nothing fails but what its limits stop, the buffers have room for the recorded size
and no more, and growth is stopped by the first buffer that grows or not at all.
-/

namespace Transparency.Frame.Session
open Buffer (Handle)
open Device (Registry ExactRegistry admits)
open Device.ExactRegistry (Made limits?)

variable {σ : Type} [Registry σ] [ExactRegistry σ] {s t : Session σ} {h : Handle} {n m : Nat}

/-- A buffer is there, and has room for a number of elements or may get it. -/
def Admits (s : Session σ) (r : Handle × Nat) : Prop :=
  Made s.device r.1 ∧ ∃ m, s.room r.1 = some m ∧
    (r.2 ≤ m ∨ admits (limits? s.device) r.1 r.2 = .ok ())

theorem limits?_resize (s : Session σ) (h : Handle) (n : Nat) :
    limits? (s.resize h n).2.device = limits? s.device := by
  rw [resize, absorb_device]
  exact (ExactRegistry.keeps_limits? _).resize _ _ _ rfl

theorem made_resize {x : Handle} (hx : Made s.device x) (h : Handle) (n : Nat) :
    Made (s.resize h n).2.device x := by
  rw [resize, absorb_device]
  exact ExactRegistry.made_resize h n hx

theorem room_resize (he : s.resize h n = (.ok (), t)) (hm : s.room h = some m) :
    t.room h = some (max m n) := by
  obtain ⟨hr, hd, -, -⟩ := of_absorb_ok he
  rw [room, hd]
  exact ExactRegistry.room_resize hr hm

theorem resize_of_admits (ha : s.Admits (h, n)) : ∃ t, s.resize h n = (.ok (), t) := by
  obtain ⟨made, m, hm, fits⟩ := ha
  apply absorb_ok
  rw [ExactRegistry.resize_result made hm]
  split
  · rfl
  · rename_i short
    exact fits.resolve_left short

theorem made_resizeAll {x : Handle} (hx : Made s.device x) (rs : List (Handle × Nat)) :
    Made (s.resizeAll rs).2.device x := by
  induction rs generalizing s with
  | nil => exact hx
  | cons r rs ih =>
      have hr := made_resize hx r.1 r.2
      simp only [resizeAll]
      split <;> rename_i he
      · rw [he] at hr; exact hr
      · rw [he] at hr; exact ih hr

/-- Where all may get the room, all get it. -/
theorem resizeAll_of_admits {rs : List (Handle × Nat)} (distinct : (rs.map (·.1.id)).Nodup)
    (admitted : ∀ r ∈ rs, s.Admits r) : ∃ t, s.resizeAll rs = (.ok (), t) ∧
      ∀ r ∈ rs, ∀ m, s.room r.1 = some m → t.room r.1 = some (max m r.2) := by
  induction rs generalizing s with
  | nil => exact ⟨s, rfl, by simp⟩
  | cons r rs ih =>
      obtain ⟨other, distinct⟩ := List.nodup_cons.mp distinct
      have kept : ∀ x ∈ rs, x.1.id ≠ r.1.id := fun x hx same =>
        other (List.mem_map.mpr ⟨x, hx, same⟩)
      obtain ⟨u, hu⟩ := resize_of_admits (admitted r (List.mem_cons_self ..))
      have hrooms : ∀ x ∈ rs, u.room x.1 = s.room x.1 := by
        intro x hx
        have h := s.room_resize_other (n := r.2) (kept x hx)
        rw [hu] at h
        exact h
      have hadmitted : ∀ x ∈ rs, u.Admits x := by
        intro x hx
        obtain ⟨made, m, hm, fits⟩ := admitted x (List.mem_cons_of_mem _ hx)
        have hl := s.limits?_resize r.1 r.2
        have hmade := made_resize made r.1 r.2
        rw [hu] at hl hmade
        exact ⟨hmade, m, by rw [hrooms x hx, hm], by rw [hl]; exact fits⟩
      obtain ⟨t, ht, hall⟩ := ih distinct hadmitted
      refine ⟨t, by rw [resizeAll, hu]; exact ht, fun x hx m hm => ?_⟩
      rcases List.mem_cons.mp hx with rfl | hx
      · have first := u.room_resizeAll_other rs (x := x.1) (by simpa using other)
        rw [ht] at first
        rw [first]
        exact room_resize hu hm
      · exact hall x hx m (by rw [hrooms x hx, hm])

end Transparency.Frame.Session

namespace Transparency.Fragment
open Buffer (Handle Kind)
open Device (Registry LawfulRegistry ExactRegistry Limited Limits)
open Device.ExactRegistry (Made limits?)
open Transparency.Frame (Session Context)
open Transparency.Frame.Session (Stocks)

variable {σ : Type} [Registry σ] [ExactRegistry σ] {s t : Session σ} {b : Buffers} {size : Size}
  {bundle : Bundle}

/-- Buffers that have room for a screen of a size, and no more. -/
structure Buffers.Exact (b : Buffers) (size : Size) (s : Session σ) : Prop extends b.HeldIn s where
  made : ∀ x ∈ b.toList, Made s.device x
  elements : b.storage.map (fun x => (x.kind, x.stride)) =
    [(.storage, 4), (.storage, 4), (.storage, 16), (.storage, 4)]
  counters : s.room b.counter = some (size.columns * size.rows + 1)
  fragments : ∀ x ∈ [b.indices, b.data, b.depth], s.room x = some (8 * (size.columns * size.rows))
  uniform : s.room b.uniforms = some 1

namespace Buffers

theorem Exact.transfer (h : b.Exact size s) (hr : t.room = s.room)
    (made : ∀ x, Made s.device x → Made t.device x) : b.Exact size t where
  toHeldIn := h.toHeldIn.of_isSome fun x _ => by rw [hr]; exact id
  made x hx := made x (h.made x hx)
  elements := h.elements
  counters := by rw [hr]; exact h.counters
  fragments := by rw [hr]; exact h.fragments
  uniform := by rw [hr]; exact h.uniform

theorem Exact.alike (h : b.Exact size s) (ha : Session.Alike s t) : b.Exact size t :=
  h.transfer ha.room fun x => by rw [ha.device]; exact id

/-- The room of all buffers follows from the size. -/
theorem Exact.rooms (h : b.Exact size s) : b.toList.map s.room =
    [some (size.columns * size.rows + 1), some (8 * (size.columns * size.rows)),
      some (8 * (size.columns * size.rows)), some (8 * (size.columns * size.rows)), some 1] := by
  simp only [toList, entries, List.map_cons, List.map_nil, h.counters, h.uniform,
    h.fragments b.indices (by simp), h.fragments b.data (by simp), h.fragments b.depth (by simp)]

/-! ## New buffers -/

/-- Buffers as they are made, before the counter gets its first element. -/
structure Fresh (b : Buffers) (s : Session σ) : Prop where
  made : ∀ x ∈ b.toList, Made s.device x
  elements : b.storage.map (fun x => (x.kind, x.stride)) =
    [(.storage, 4), (.storage, 4), (.storage, 16), (.storage, 4)]
  rooms : ∀ x ∈ b.storage, s.room x = some 0
  uniform : s.room b.uniforms = some 1

theorem fresh_of_allocateAll (sound : s.Sound)
    (he : allocateAll [] s bufferPlans = (.ok b.toList, t)) : b.Fresh t := by
  obtain ⟨fresh, hall, hplans, -⟩ := of_allocateAll_ok sound he
  obtain ⟨-, fresh', hall', hmade⟩ := forall₂_of_allocateAll
    (Q := fun plan h d => h.kind = plan.kind ∧ h.fields = [⟨plan.field, plan.element⟩] ∧ Made d h)
    (fun sound hr => ⟨(ExactRegistry.made_allocate sound hr).1, (ExactRegistry.made_allocate sound hr).2.1,
      (ExactRegistry.made_allocate sound hr).2.2.1⟩)
    (fun sound hq hr => ⟨hq.1, hq.2.1, (ExactRegistry.made_allocate sound hr).2.2.2 _ hq.2.2⟩) sound he
  rw [List.nil_append] at hall hall'
  subst hall hall'
  simp only [toList, entries, List.map_cons, List.map_nil, bufferPlans, List.forall₂_cons,
    List.forall₂_nil_right_iff, and_true, BufferPlan.MadeIn] at hplans hmade
  obtain ⟨⟨-, r1⟩, ⟨-, r2⟩, ⟨-, r3⟩, ⟨-, r4⟩, -, r5⟩ := hplans
  obtain ⟨⟨k1, f1, m1⟩, ⟨k2, f2, m2⟩, ⟨k3, f3, m3⟩, ⟨k4, f4, m4⟩, -, -, m5⟩ := hmade
  refine ⟨?_, ?_, ?_, r5⟩
  · simp only [toList, entries, List.map_cons, List.map_nil, List.forall_mem_cons]
    exact ⟨m1, m2, m3, m4, m5, by simp⟩
  · simp only [storage, List.map_cons, List.map_nil, Handle.stride, k1, f1, k2, f2, k3, f3, k4, f4]
    rfl
  · simp only [storage, List.forall_mem_cons]
    exact ⟨r1, r2, r3, r4, by simp⟩

theorem exact_of_allocateBuffers (sound : s.Sound) (he : allocateBuffers s = (.ok b, t)) :
    b.Exact {} t := by
  obtain ⟨held, -⟩ := of_allocateBuffers_ok sound he
  obtain ⟨u, v, hc, hr, ha⟩ := allocateBuffers_eq_ok he
  have fresh := fresh_of_allocateAll sound hc
  have others {x : Handle} (other : x.id ≠ b.counter.id) : t.room x = u.room x := by
    have h := u.room_resize_other (n := Capacities.empty.counter) other
    rw [hr] at h
    rw [ha.room]
    exact h
  have ids := held.distinct
  simp only [toList, entries, List.map_cons, List.map_nil, List.nodup_cons, List.mem_cons,
    List.not_mem_nil, or_false, not_or] at ids
  obtain ⟨⟨n2, n3, n4, n5⟩, -⟩ := ids
  refine { held with made := ?_, elements := fresh.elements, counters := ?_, fragments := ?_, uniform := ?_ }
  · intro x hx
    have h := Session.made_resize (fresh.made x hx) b.counter Capacities.empty.counter
    rw [hr] at h
    rw [ha.device]
    exact h
  · rw [ha.room, Session.room_resize hr (fresh.rooms _ (by simp [storage]))]
    rfl
  · intro x hx
    have room : u.room x = some 0 := fresh.rooms x (List.mem_cons_of_mem _ hx)
    simp only [List.mem_cons, List.not_mem_nil, or_false] at hx
    rcases hx with rfl | rfl | rfl
    · rw [others (Ne.symm n2), room]; rfl
    · rw [others (Ne.symm n3), room]; rfl
    · rw [others (Ne.symm n4), room]; rfl
  · rw [others (Ne.symm n5), fresh.uniform]

/-! ## Growth -/

theorem Exact.role_data (h : b.Exact size s) : b.data.role = .data := by
  have hr := h.roles
  simp only [toList, entries, List.map_cons, List.map_nil, Buffer.Role.builtIn, List.cons.injEq] at hr
  exact hr.2.2.1

/-- The colors take the most bytes, so the other buffers may get what the colors get. -/
theorem Exact.admits (h : b.Exact size s) {requested : Size}
    (le : size.columns * size.rows ≤ requested.columns * requested.rows)
    (data : s.Admits (b.data, (Capacities.need requested).fragments)) :
    ∀ r ∈ b.demands (.need requested), s.Admits r := by
  obtain ⟨-, m, hm, fits⟩ := data
  rw [h.fragments b.data (by simp)] at hm
  cases hm
  have he := h.elements
  simp only [storage, List.map_cons, List.map_nil, List.cons.injEq, Prod.mk.injEq, and_true] at he
  obtain ⟨⟨k1, s1⟩, ⟨k2, s2⟩, ⟨k3, s3⟩, k4, s4⟩ := he
  have rooms := h.fragments
  have counters := h.counters
  simp only [demands, Capacities.need] at fits ⊢
  generalize size.columns * size.rows = before at le fits rooms counters
  generalize requested.columns * requested.rows = after at le fits ⊢
  have other {x : Handle} {n m : Nat} (hx : x ∈ b.toList) (hm : s.room x = some m)
      (kind : x.kind = .storage) (within : x.stride * max n 1 ≤ 16 * max (8 * after) 1)
      (covered : after ≤ before → n ≤ m) : s.Admits (x, n) := by
    refine ⟨h.made x hx, m, hm, ?_⟩
    rcases fits with fits | fits
    · exact Or.inl (covered (by omega))
    · exact Or.inr (Device.admits_mono k3 kind fits (by rw [s3]; exact within))
  intro r hr
  simp only [List.mem_cons, List.not_mem_nil, or_false] at hr
  rcases hr with rfl | rfl | rfl | rfl
  · exact other (by simp [toList, entries]) (rooms _ (by simp)) k3 (Nat.le_of_eq (by rw [s3])) (by omega)
  · exact other (by simp [toList, entries]) (rooms _ (by simp)) k2 (by rw [s2]; omega) (by omega)
  · exact other (by simp [toList, entries]) (rooms _ (by simp)) k4 (by rw [s4]; omega) (by omega)
  · exact other b.counter_mem_toList counters k1 (by rw [s1]; omega) (by omega)

theorem Exact.of_resizeAll (h : b.Exact size s) {requested : Size}
    (le : size.columns * size.rows ≤ requested.columns * requested.rows)
    (admitted : ∀ r ∈ b.demands (.need requested), s.Admits r) : ∃ t,
    s.resizeAll (b.demands (.need requested)) = (.ok (), t) ∧ b.Exact requested t := by
  obtain ⟨t, ht, hrooms⟩ := Session.resizeAll_of_admits (h.distinct_demands _) admitted
  have hmade {x : Handle} (hx : Made s.device x) := Session.made_resizeAll hx (b.demands (.need requested))
  have hgrows := s.resizeAll_grows (b.demands (.need requested))
  rw [ht] at hmade hgrows
  refine ⟨t, ht, { h.toHeldIn.of_isSome fun x _ => hgrows.isSome with
    made := fun x hx => hmade (h.made x hx), elements := h.elements, counters := ?_, fragments := ?_
    uniform := ?_ }⟩
  · rw [hrooms _ (b.counter_mem_demands _) _ h.counters]
    exact congrArg some (Nat.max_eq_right (Nat.succ_le_succ le))
  · intro x hx
    rw [hrooms _ (mem_demands_of_fragments (.need requested) hx) _ (h.fragments x hx)]
    exact congrArg some (Nat.max_eq_right (Nat.mul_le_mul_left 8 le))
  · have other := s.room_resizeAll_other (b.demands (.need requested)) h.uniforms_not_mem_demands
    rw [ht] at other
    rw [other, h.uniform]

theorem Exact.growBuffers_of_admits (h : b.Exact size s) {requested : Size}
    (le : size.columns * size.rows ≤ requested.columns * requested.rows)
    (fits : s.Admits (b.data, (Capacities.need requested).fragments)) :
    ∃ t, Bundle.growBuffers b s requested (.need requested) = (.ok (), t) ∧ b.Exact requested t := by
  obtain ⟨t, ht, exact⟩ := h.of_resizeAll le (h.admits le fits)
  have live : (t.room b.uniforms).isSome := exact.live _ (by simp [toList, entries])
  obtain ⟨u, hu⟩ : ∃ u, t.upload b.uniforms ⟨"screenSize", requested.bytes⟩ = (.ok (), u) :=
    Session.absorb_ok (ExactRegistry.upload_result live)
  refine ⟨u, by rw [Bundle.growBuffers_eq, ht]; exact hu, exact.transfer ?_ fun x hx => ?_⟩
  · have hr := t.room_upload b.uniforms ⟨"screenSize", requested.bytes⟩
    rw [hu] at hr
    exact hr
  · rw [(Session.of_absorb_ok hu).2.1]
    exact ExactRegistry.made_upload _ _ hx

/-- The colors go first, so when they are stopped nothing else was done. -/
theorem Exact.growBuffers_of_not_admits (h : b.Exact size s) {requested : Size}
    (stopped : ¬ s.Admits (b.data, (Capacities.need requested).fragments)) :
    ∃ bytes limit t, Bundle.growBuffers b s requested (.need requested) =
      (.error (.bufferTooLarge .data bytes limit), t) ∧ (limits? s.device).isSome ∧ t.room = s.room ∧
        b.Exact size t := by
  have made := h.made b.data (by simp [toList, entries])
  have hdata := h.fragments b.data (by simp)
  have short : ¬ (Capacities.need requested).fragments ≤ 8 * (size.columns * size.rows) :=
    fun enough => stopped ⟨made, _, hdata, Or.inl enough⟩
  have result := ExactRegistry.resize_result (n := (Capacities.need requested).fragments) made hdata
  rw [if_neg short] at result
  cases ha : Device.admits (limits? s.device) b.data (Capacities.need requested).fragments with
  | ok _ => exact absurd ⟨made, _, hdata, Or.inr ha⟩ stopped
  | error e =>
      rw [ha] at result
      obtain ⟨bytes, limit, rfl⟩ := Device.of_admits_error ha
      rw [h.role_data] at result
      obtain ⟨t, ht⟩ : ∃ t, s.resize b.data (Capacities.need requested).fragments =
        (.error (.bufferTooLarge .data bytes limit), t) := Session.absorb_error result
      have same := (Session.of_resize_error ht).1
      refine ⟨bytes, limit, t, ?_, ?_, same, h.transfer same fun x hx => ?_⟩
      · rw [Bundle.growBuffers_eq, demands, Session.resizeAll, ht]
      · cases hl : limits? s.device with
        | none => rw [hl] at ha; cases ha
        | some limits => rfl
      · have hmade := Session.made_resize hx b.data (Capacities.need requested).fragments
        rw [ht] at hmade
        exact hmade

/-- Limits stop the growth of the buffers at the colors, or they do not stop it. -/
theorem Exact.growBuffers (h : b.Exact size s) {requested : Size}
    (le : size.columns * size.rows ≤ requested.columns * requested.rows) :
    (∃ bytes limit t, Bundle.growBuffers b s requested (.need requested) =
      (.error (.bufferTooLarge .data bytes limit), t) ∧ (limits? s.device).isSome ∧ t.room = s.room ∧
        b.Exact size t) ∨
    ∃ t, Bundle.growBuffers b s requested (.need requested) = (.ok (), t) ∧ b.Exact requested t := by
  by_cases fits : s.Admits (b.data, (Capacities.need requested).fragments)
  · exact Or.inr (h.growBuffers_of_admits le fits)
  · exact Or.inl (h.growBuffers_of_not_admits fits)

end Buffers

namespace Bundle

/-- A bundle without buffers records no size; the buffers of one that has them have room for the size that
it records, and no more. -/
structure Exact (bundle : Bundle) (s : Session σ) : Prop where
  nonneg : bundle.size.isNegative = false
  unallocated : bundle.buffers = none → bundle.size = {}
  allocated : ∀ b, bundle.buffers = some b → b.Exact bundle.size s

theorem Exact.withContext (h : bundle.Exact s) (c : Context) : bundle.Exact (s.withContext c) :=
  ⟨h.nonneg, h.unallocated, fun b hb => (h.allocated b hb).transfer rfl fun _ => id⟩

theorem exact_empty (s : Session σ) : Exact {} s := ⟨rfl, fun _ => rfl, by intro b hb; cases hb⟩

/-- What growing comes to: buffers that are there grow to the larger value on each axis, or nothing has
changed. -/
inductive Growth (bundle : Bundle) (s : Session σ) (requested : Size) : Outcome σ Bool → Prop
  | negative : requested.isNegative = true →
      Growth bundle s requested { result := .error (.invalidSize requested), bundle, session := s }
  | covered : requested.isNegative = false → bundle.size.covers requested = true →
      Growth bundle s requested { result := .ok false, bundle, session := s }
  | overflow : requested.isNegative = false → bundle.size.covers requested = false →
      ¬ Capacities.Countable (requested.sup bundle.size) →
      Growth bundle s requested
        { result := .error (.capacityOverflow (requested.sup bundle.size)), bundle, session := s }
  | refused {bytes limit : Nat} {t : Session σ} : requested.isNegative = false →
      bundle.size.covers requested = false → Capacities.Countable (requested.sup bundle.size) →
      (limits? s.device).isSome → t.room = s.room → bundle.Exact t →
      Growth bundle s requested
        { result := .error (.bufferTooLarge .data bytes limit), bundle, session := t }
  | grown {t : Session σ} : requested.isNegative = false → bundle.size.covers requested = false →
      Capacities.Countable (requested.sup bundle.size) →
      Exact { bundle with size := requested.sup bundle.size } t →
      Growth bundle s requested
        { result := .ok true, bundle := { bundle with size := requested.sup bundle.size }, session := t }

theorem Exact.growth (h : bundle.Exact s) (hb : bundle.buffers = some b) (requested : Size) :
    bundle.Growth s requested (bundle.grow s requested) := by
  obtain ⟨buffers, recorded⟩ := bundle
  obtain rfl : buffers = some b := hb
  have exact := h.allocated b rfl
  rw [Bundle.grow, Decision.evaluate_eq]
  cases negative : requested.isNegative with
  | true => exact .negative negative
  | false =>
      cases covered : recorded.covers requested with
      | true => exact .covered negative covered
      | false =>
          by_cases countable : Capacities.Countable (requested.sup recorded)
          · simp only [Bool.false_eq_true, if_false, countable, if_true]
            rcases exact.growBuffers (requested.pixels_le_sup recorded) with
              ⟨bytes, limit, t, ht, limited, same, kept⟩ | ⟨t, ht, grown⟩
            · rw [ht]
              refine .refused negative covered countable limited same ⟨h.nonneg, h.unallocated, ?_⟩
              intro b' hb'
              cases hb'
              exact kept
            · rw [ht]
              refine .grown negative covered countable ⟨?_, by simp, fun b' hb' => ?_⟩
              · exact requested.sup_not_isNegative recorded negative
              · cases hb'
                exact grown.alike (Session.alike_report _ _ _)
          · simp only [Bool.false_eq_true, if_false, countable]
            exact .overflow negative covered countable

/-! ## Any calls, in any order -/

theorem Exact.ensure (h : bundle.Exact s) (sound : s.Sound) :
    (bundle.ensure s).bundle.Exact (bundle.ensure s).session := by
  unfold Bundle.ensure
  split
  · exact h
  · rename_i hnone
    split <;> rename_i he
    · exact ⟨h.nonneg, h.unallocated, by simp [hnone]⟩
    · refine ⟨rfl, by simp, fun b hb => ?_⟩
      cases hb
      exact Buffers.exact_of_allocateBuffers sound he

theorem Exact.grow (h : bundle.Exact s) (requested : Size) :
    (bundle.grow s requested).bundle.Exact (bundle.grow s requested).session := by
  cases hb : bundle.buffers with
  | none =>
      unfold Bundle.grow
      split
      · exact h
      · exact h
      · rw [hb]; exact h
  | some b =>
      have hg := h.growth hb requested
      generalize bundle.grow s requested = outcome at hg
      cases hg with
      | negative => exact h
      | covered => exact h
      | overflow => exact h
      | refused _ _ _ _ _ kept => exact kept
      | grown _ _ _ grown => exact grown

theorem Exact.prepare (h : bundle.Exact s) (sound : s.Sound) (requested : Size) :
    (bundle.prepare s requested).bundle.Exact (bundle.prepare s requested).session := by
  unfold Bundle.prepare
  split
  · exact h
  · have he := h.ensure sound
    dsimp only
    split
    · exact he
    · exact (he.withContext _).grow requested

theorem exact_release (bundle : Bundle) (s : Session σ) : (bundle.release s).1.Exact (bundle.release s).2 := by
  unfold Bundle.release
  split
  · exact exact_empty _
  · exact exact_empty _

theorem Exact.make {r : Bundle × Session σ} (h : r.1.Exact r.2) (sound : r.2.Sound) (call : Call) :
    (make r call).1.Exact (make r call).2 := by
  cases call with
  | ensure => exact h.ensure sound
  | prepare requested => exact h.prepare sound requested
  | grow requested => exact h.grow requested
  | publish => exact h.withContext _
  | release => exact exact_release r.1 r.2

theorem Exact.foldl_make {r : Bundle × Session σ} (h : r.1.Exact r.2) (sound : r.2.Sound)
    (calls : List Call) : (calls.foldl Bundle.make r).1.Exact (calls.foldl Bundle.make r).2 := by
  induction calls generalizing r with
  | nil => exact h
  | cons call calls ih => exact ih (h.make sound call) ((make_stocks r call).sound sound)

theorem exact_after (d : σ) (sound : LawfulRegistry.Sound d) (c : Context) (calls : List Call) :
    (after d c calls).1.Exact (after d c calls).2 :=
  (exact_empty _).foldl_make (r := ({}, { context := c, device := d })) sound calls

/-- Whatever the limits of a device are and whatever was called: the buffers have room for the recorded
size and no more, and where growth fails, the elements could not be counted or the colors took too many
bytes, and nothing has changed. -/
theorem growth_all_or_nothing (limits : Limits) (n : Nat) (c : Context) (calls : List Call) :
    let r := after (Limited.ofLimits limits n) c calls
    ∀ b, r.1.buffers = some b →
      (r.1.size.isNegative = false ∧
        r.2.room b.counter = some (r.1.size.columns * r.1.size.rows + 1) ∧
        ∀ x ∈ [b.indices, b.data, b.depth],
          r.2.room x = some (8 * (r.1.size.columns * r.1.size.rows))) ∧
      ∀ requested e, requested.isNegative = false → (r.1.grow r.2 requested).result = .error e →
        (e = .capacityOverflow (requested.sup r.1.size) ∨
          ∃ bytes limit, e = .bufferTooLarge .data bytes limit) ∧
        (r.1.grow r.2 requested).bundle = r.1 ∧
        (r.1.grow r.2 requested).session.room = r.2.room := by
  intro r b hb
  have exact : r.1.Exact r.2 :=
    exact_after _ (fun id live => by simp [Limited.ofLimits] at live) c calls
  have serves := exact.allocated b hb
  refine ⟨⟨exact.nonneg, serves.counters, serves.fragments⟩, fun requested e nonneg failed => ?_⟩
  have growth := exact.growth hb requested
  generalize r.1.grow r.2 requested = outcome at growth failed
  cases growth with
  | negative negative => rw [negative] at nonneg; cases nonneg
  | covered => cases failed
  | overflow => cases failed; exact ⟨Or.inl rfl, rfl, rfl⟩
  | refused _ _ _ _ same => cases failed; exact ⟨Or.inr ⟨_, _, rfl⟩, rfl, same⟩
  | grown => cases failed

/-- The buffers of one pixel are as large as this device lets them be. -/
def onePixel : Bundle × Session Limited :=
  after (Limited.ofLimits { storageBinding := 128 } 8) .empty [.prepare ⟨1, 1⟩]

theorem onePixel_growth_all_or_nothing : ∃ b, onePixel.1.buffers = some b ∧
    (onePixel.1.grow onePixel.2 ⟨2, 1⟩).result = .error (.bufferTooLarge .data 256 128) ∧
    (onePixel.1.grow onePixel.2 ⟨2, 1⟩).bundle = onePixel.1 ∧
    (onePixel.1.grow onePixel.2 ⟨2, 1⟩).session.room = onePixel.2.room := by
  obtain ⟨b, hb⟩ := Option.isSome_iff_exists.mp (show onePixel.1.buffers.isSome = true by rfl)
  have failed : (onePixel.1.grow onePixel.2 ⟨2, 1⟩).result = .error (.bufferTooLarge .data 256 128) := by
    rfl
  exact ⟨b, hb, failed, ((growth_all_or_nothing _ _ _ _ b hb).2 _ _ rfl failed).2⟩

end Bundle

end Transparency.Fragment
