import Transparency.Proofs.Device.Steady
import Transparency.Proofs.Fragment.Current
import Transparency.Proofs.Fragment.Exact
import Transparency.Proofs.Frame.Quiet
import Transparency.Proofs.Task.Unlogged

/-!
# Preparing a bundle again

A bundle that is prepared once more for the size that it was just prepared for stays as it is, and so do the
frame context and the buffers, whether it was prepared to the end or stopped anywhere.
-/

namespace Transparency.Frame
open Buffer (Handle Source)
open Device (Registry SteadyRegistry)

/-- Whether an event changes what a buffer holds. -/
def Event.isTransfer : Event → Bool
  | .uploaded _ _ | .filled _ _ => true
  | _ => false

namespace Session
variable {σ : Type} {same : σ → σ → Prop} {s t u s' t' : Session σ} {h : Handle} {n m : Nat} {e : Error}

/-- The context stays, the device stays as far as `same` says, and nothing was put into a buffer. -/
structure Still (same : σ → σ → Prop) (s t : Session σ) : Prop where
  context : t.context = s.context
  device : same s.device t.device
  events : ∃ made, t.events = s.events ++ made ∧ ∀ e ∈ made, e.isTransfer = false

theorem Alike.still (refl : ∀ d, same d d) (ha : Alike s t) : Still same s t :=
  ⟨ha.context, ha.device ▸ refl _, [], by rw [ha.events, List.append_nil], by simp⟩

theorem Still.trans (h : Still Eq s t) (h' : Still same t u) : Still same s u := by
  obtain ⟨made, hm, quiet⟩ := h.events
  obtain ⟨made', hm', quiet'⟩ := h'.events
  refine ⟨h'.context.trans h.context, h.device ▸ h'.device, made ++ made',
    by rw [hm', hm, List.append_assoc], ?_⟩
  intro e he
  exact (List.mem_append.mp he).elim (quiet e) (quiet' e)

theorem Still.mono (refl : ∀ d, same d d) (h : Still Eq s t) : Still same s t :=
  ⟨h.context, h.device ▸ refl _, h.events⟩

theorem Still.alike (h : Still same s t) (hs : Alike s s') (ht : Alike t t') : Still same s' t' := by
  obtain ⟨made, hm, quiet⟩ := h.events
  refine ⟨?_, ?_, made, ?_, quiet⟩
  · rw [ht.context, hs.context, h.context]
  · rw [ht.device, hs.device]
    exact h.device
  · rw [ht.events, hm, hs.events]

variable [Registry σ] [SteadyRegistry σ]

theorem resize_of_room (room : s.room h = some m) (enough : n ≤ m) :
    ∃ t, s.resize h n = (.ok (), t) ∧ Still Eq s t := by
  have done : Registry.resize s.device h n = .done s.device := SteadyRegistry.resize_enough room enough
  obtain ⟨t, ht⟩ : ∃ t, s.resize h n = (.ok (), t) := absorb_ok (by rw [done]; rfl)
  obtain ⟨-, hd, hc, hh⟩ := of_absorb_ok ht
  refine ⟨t, ht, hc, by rw [hd, done]; rfl, [.resized h n], by rw [events, hh, List.map_append]; rfl, ?_⟩
  simp [Event.isTransfer]

theorem resize_failed (he : s.resize h n = (.error e, t)) : t.device = s.device := by
  obtain ⟨failed, hd, -, -⟩ := of_absorb_error he
  rw [hd]
  exact SteadyRegistry.resize_failed failed

theorem resize_fails (he : s.resize h n = (.error e, t)) (hd : s'.device = s.device) :
    ∃ t', s'.resize h n = (.error e, t') ∧ Still Eq s' t' := by
  obtain ⟨t', ht'⟩ : ∃ t', s'.resize h n = (.error e, t') :=
    absorb_error (by rw [hd]; exact (of_absorb_error he).1)
  obtain ⟨-, -, hc, hh⟩ := of_absorb_error ht'
  exact ⟨t', ht', hc, (resize_failed ht').symm, [], by rw [events, hh, List.append_nil, events], by simp⟩

theorem resizeAll_of_room {rs : List (Handle × Nat)}
    (rooms : ∀ r ∈ rs, ∃ m, s.room r.1 = some m ∧ r.2 ≤ m) :
    ∃ t, s.resizeAll rs = (.ok (), t) ∧ Still Eq s t := by
  induction rs generalizing s with
  | nil => exact ⟨s, rfl, (Alike.refl s).still fun _ => rfl⟩
  | cons r rs ih =>
      obtain ⟨m, room, enough⟩ := rooms r List.mem_cons_self
      obtain ⟨t, ht, still⟩ := resize_of_room room enough
      have kept : t.room = s.room := Session.room_of_device still.device.symm
      obtain ⟨u, hu, still'⟩ := ih (s := t) fun r hr => kept ▸ rooms r (List.mem_cons_of_mem _ hr)
      exact ⟨u, by rw [resizeAll, ht]; exact hu, still.trans still'⟩

/-- What grew before a failure does not grow again, and what failed fails again. -/
theorem resizeAll_fails {rs : List (Handle × Nat)} (he : s.resizeAll rs = (.error e, t))
    (hd : s'.device = t.device) : ∃ t', s'.resizeAll rs = (.error e, t') ∧ Still Eq s' t' := by
  induction rs generalizing s s' with
  | nil => cases he
  | cons r rs ih =>
      rw [resizeAll] at he
      split at he <;> rename_i hr
      · cases he
        obtain ⟨t', ht', still⟩ := resize_fails hr (hd.trans (resize_failed hr))
        exact ⟨t', by rw [resizeAll, ht'], still⟩
      · rename_i u
        -- the first buffer has its room since the first time
        obtain ⟨⟨m, room, enough, -⟩, -, -⟩ := of_resize_ok hr
        have grows := u.resizeAll_grows rs
        rw [he] at grows
        obtain ⟨k, room', more⟩ := grows r.1 m room
        have kept : s'.room r.1 = some k := by
          rw [Session.room, hd]
          exact room'
        obtain ⟨v, hv, still⟩ := resize_of_room kept (Nat.le_trans enough more)
        obtain ⟨t', ht', still'⟩ := ih he (still.device ▸ hd)
        exact ⟨t', by rw [resizeAll, hv]; exact ht', still.trans still'⟩

end Session

end Transparency.Frame

namespace Transparency.Fragment
open Buffer (Handle)
open Device (Registry LawfulRegistry ExactRegistry SteadyRegistry Recorder Limited)
open Transparency.Frame (Session Context Key)
open Transparency.Frame.Session (Alike Still)

/-! ## Publishing again -/

namespace Buffers
variable (b : Buffers) (c : Context)

theorem publish_of_published (there : ∀ entry ∈ b.entries, c.get? entry.1 = some (.buffer entry.2)) :
    b.publish c = c := by
  unfold publish
  generalize b.entries = es at there
  induction es with
  | nil => rfl
  | cons entry es ih =>
      obtain ⟨k, h⟩ := entry
      have first : c.setBuffer k h = c := Table.insert_of_get? (there (k, h) List.mem_cons_self)
      simp only [List.foldl_cons, first]
      exact ih fun e he => there e (List.mem_cons_of_mem _ he)

@[simp] theorem publish_publish : b.publish (b.publish c) = b.publish c :=
  b.publish_of_published _ fun _ entry => b.get?_publish c entry

end Buffers

namespace Bundle
variable {σ : Type} {same : σ → σ → Prop} [Registry σ] {s t s' : Session σ} {b : Buffers} {size : Size}
  {caps : Capacities} {bundle : Bundle} {requested : Size} {e : Error}

/-! ## Growing again -/

section
variable [SteadyRegistry σ]

theorem growBuffers_fails (he : growBuffers b s size caps = (.error e, t)) (hd : s'.device = t.device) :
    ∃ t', growBuffers b s' size caps = (.error e, t') ∧ Still Eq s' t' := by
  rw [growBuffers_eq] at he
  split at he <;> rename_i hr
  · cases he
    obtain ⟨t', ht', still⟩ := Session.resizeAll_fails hr hd
    exact ⟨t', by rw [growBuffers_eq, ht'], still⟩
  · -- all buffers have their room, and the size is refused again
    rename_i u
    obtain ⟨failed, hu, -, -⟩ := Session.of_absorb_error he
    have kept : t.device = u.device := hu.trans (SteadyRegistry.upload_failed failed)
    have rooms := (Session.of_resizeAll_ok hr).1
    obtain ⟨v, hv, still⟩ := Session.resizeAll_of_room (s := s') fun r hr => by
      rw [Session.room, hd, kept]
      exact rooms r hr
    obtain ⟨t', ht'⟩ : ∃ t', v.upload b.uniforms ⟨"screenSize", size.bytes⟩ = (.error e, t') :=
      Session.absorb_error (by rw [← still.device, hd, kept]; exact failed)
    obtain ⟨failed', hd', hc', hh'⟩ := Session.of_absorb_error ht'
    refine ⟨t', by rw [growBuffers_eq, hv]; exact ht', still.trans ⟨hc', ?_, [], ?_, by simp⟩⟩
    · rw [hd']
      exact (SteadyRegistry.upload_failed failed').symm
    · rw [Session.events, hh', List.append_nil, Session.events]

theorem grow_again (requested : Size) (hb : bundle.buffers = some b)
    (hd : s'.device = (bundle.grow s requested).session.device) :
    ((bundle.grow s requested).bundle.grow s' requested).bundle = (bundle.grow s requested).bundle ∧
      Still Eq s' ((bundle.grow s requested).bundle.grow s' requested).session := by
  have still : Still Eq s' s' := (Alike.refl s').still fun _ => rfl
  cases decided : Decision.evaluate requested bundle.size with
  | error e =>
      have once : (bundle.grow s requested).bundle = bundle := by simp [grow, decided]
      rw [once]
      exact ⟨by simp [grow, decided], by simpa [grow, decided] using still⟩
  | ok decision =>
      cases decision with
      | unchanged =>
          have once : (bundle.grow s requested).bundle = bundle := by simp [grow, decided]
          rw [once]
          exact ⟨by simp [grow, decided], by simpa [grow, decided] using still⟩
      | grow size caps =>
          rcases grown : growBuffers b s size caps with ⟨e | _, t⟩
          · have once : (bundle.grow s requested).bundle = bundle := by simp [grow, decided, hb, grown]
            have after : (bundle.grow s requested).session = t := by simp [grow, decided, hb, grown]
            obtain ⟨t', ht', still⟩ := growBuffers_fails grown (hd.trans (by rw [after]))
            rw [once]
            exact ⟨by simp [grow, decided, hb, ht'], by simpa [grow, decided, hb, ht'] using still⟩
          · have once : (bundle.grow s requested).bundle = { bundle with size } := by
              simp [grow, decided, hb, grown]
            have reached := Decision.evaluate_again decided
            rw [Decision.record] at reached
            rw [once]
            exact ⟨by simp [grow, reached], by simpa [grow, reached] using still⟩

end

/-! ## Preparing again -/

theorem ensure_of_buffers (hb : bundle.buffers = some b) (s : Session σ) :
    bundle.ensure s = { result := .ok b, bundle, session := s } := by
  rw [ensure, hb]

theorem opened_of_published {c : Context} (hb : bundle.buffers = some b) (hc : s.context = b.publish c) :
    bundle.opened s = s := by
  simp only [opened, ensure_of_buffers hb, Bundle.publish, hb, hc, Buffers.publish_publish]
  rw [← hc]
  rfl

/-- Where the buffers could not be made, they cannot be made again, and the device stays as far as `same` says. -/
def Retries [LawfulRegistry σ] (same : σ → σ → Prop) : Prop :=
  ∀ {s t : Session σ} {e : Error}, s.Sound → allocateBuffers s = (.error e, t) →
    ∃ u, allocateBuffers t = (.error e, u) ∧ Still same t u

variable [SteadyRegistry σ]

/-- However far a bundle got when it was prepared, nothing comes of preparing it again. -/
theorem prepare_again (refl : ∀ d, same d d) (retries : Retries same) (sound : s.Sound) (bundle : Bundle)
    (requested : Size) :
    ((bundle.prepare s requested).bundle.prepare (bundle.prepare s requested).session requested).bundle =
      (bundle.prepare s requested).bundle ∧
    Still same (bundle.prepare s requested).session
      ((bundle.prepare s requested).bundle.prepare (bundle.prepare s requested).session requested).session := by
  cases negative : requested.isNegative with
  | true =>
      have idle (s : Session σ) :
          bundle.prepare s requested = { result := .error (.invalidSize requested), bundle, session := s } := by
        rw [prepare, negative, if_pos rfl]
      rw [idle, idle]
      exact ⟨rfl, (Alike.refl s).still refl⟩
  | false =>
      cases made : (bundle.ensure s).result with
      | error e =>
          have stopped {s t : Session σ} (hb : bundle.buffers = none) (ha : allocateBuffers s = (.error e, t)) :
              bundle.prepare s requested = { result := .error e, bundle, session := t } := by
            rw [prepare, negative, if_neg Bool.false_ne_true, ensure, hb]
            simp only [ha]
          cases hb : bundle.buffers with
          | some b => rw [ensure_of_buffers hb] at made; cases made
          | none =>
              rcases ha : allocateBuffers s with ⟨e' | b, t⟩
              · have hee : e' = e := by simpa [ensure, hb, ha] using made
                obtain ⟨u, hu, still⟩ := retries sound ha
                rw [stopped hb (hee ▸ ha), stopped hb (hee ▸ hu)]
                exact ⟨rfl, still⟩
              · simp [ensure, hb, ha] at made
      | ok b =>
          have hb := ensure_ok made
          obtain ⟨hb', hc⟩ := prepare_published negative made hb
          have once := prepare_eq_grow negative made
          have again := prepare_eq_grow (s := (bundle.prepare s requested).session) negative
            (congrArg Outcome.result (ensure_of_buffers hb' (bundle.prepare s requested).session))
          rw [again, ensure_of_buffers hb', opened_of_published hb' hc, once]
          obtain ⟨same, still⟩ := grow_again (s := bundle.opened s) requested hb rfl
          exact ⟨same, still.mono refl⟩

/-! ## The device that records -/

theorem retries_recorder : Retries fun d d' : Recorder => d = d' := by
  intro s t e sound he
  have refusing : s.device.refusing = true := by
    cases hr : s.device.refusing with
    | true => rfl
    | false =>
        obtain ⟨b, u, hu⟩ := allocateBuffers_of_willing Recorder.willing_refusing hr sound
        rw [hu] at he
        cases he
  have idle : Alike s t := by
    simp only [allocateBuffers, allocateAll, bufferPlans, Session.allocate, Session.absorb, Registry.allocate,
      Recorder.allocate, refusing, Device.Reply.fail, Session.destroyAll, List.foldl_nil, if_true] at he
    cases he
    exact ⟨rfl, rfl, rfl⟩
  rcases (allocateBuffers_agree idle).cases with ⟨e', s', u, hs, hu, ha⟩ | ⟨b, s', u, hs, -, -⟩
  · rw [he] at hs
    cases hs
    exact ⟨u, hu, ha.still fun _ => rfl⟩
  · rw [he] at hs
    cases hs

end Bundle

/-! ## The device with limits -/

section
open Buffer (Role Kind Field UsageHint)

variable {s t u : Session Limited} {plans : List BufferPlan} {made : List Handle} {e : Error}

/-- Making a buffer either uses up a handle, or sets a new entry in the table of buffers. -/
theorem allocate_limited (s : Session Limited) (role : Role) (fields : List Field) (kind : Kind)
    (hint : UsageHint) :
    (∃ e t, s.device.admission role fields kind = .error e ∧
      s.allocate role fields kind hint = (.error e, t) ∧
      s.device.Restores t.device) ∨
    ∃ h b t, s.device.admission role fields kind = .ok () ∧ s.allocate role fields kind hint = (.ok h, t) ∧
      h.id = s.device.nextId ∧ t.device = (s.device.issue role fields kind).2.put h b := by
  have reply : Registry.allocate s.device role fields kind hint = s.device.allocate role fields kind := rfl
  rcases s.device.allocate_cases role fields kind with ⟨e, refused, he⟩ | ⟨size, admitted, -, he⟩
  · obtain ⟨t, ht⟩ : ∃ t, s.allocate role fields kind hint = (.error e, t) :=
      Session.absorb_error (by rw [reply, he]; rfl)
    refine Or.inl ⟨e, t, refused, ht, ?_⟩
    rw [(Session.of_absorb_error ht).2.1, reply, he]
    rfl
  · obtain ⟨t, ht⟩ : ∃ t, s.allocate role fields kind hint = (.ok (s.device.issue role fields kind).1, t) :=
      Session.absorb_ok (by rw [reply, he])
    refine Or.inr ⟨_, Limited.newBuffer role kind (s.device.issue role fields kind).1 size, t, admitted, ht, rfl,
      ?_⟩
    rw [(Session.of_absorb_ok ht).2.1, reply, he]

theorem buffers_destroyAll (s : Session Limited) (hs : List Handle) :
    (s.destroyAll hs).device =
      { s.device with buffers := (hs.map (·.id)).foldl Table.erase s.device.buffers } := by
  induction hs generalizing s with
  | nil => rfl
  | cons h hs ih => exact (ih (s.destroy h)).trans rfl

/-- Which plan is refused first depends on nothing but the limits. -/
theorem allocateAll_refused (made' : List Handle) (same : t.device.limits = s.device.limits)
    (he : allocateAll made s plans = (.error e, u)) : ∃ v, allocateAll made' t plans = (.error e, v) := by
  induction plans generalizing made made' s t with
  | nil => cases he
  | cons plan plans ih =>
      have like := Limited.admission_congr same plan.role [⟨plan.field, plan.element⟩] plan.kind
      simp only [allocateAll] at he ⊢
      rcases allocate_limited s plan.role [⟨plan.field, plan.element⟩] plan.kind plan.hint with
        ⟨e₁, s₁, hs, ha, -⟩ | ⟨h, b, s₁, hs, ha, -, hd⟩
      · rcases allocate_limited t plan.role [⟨plan.field, plan.element⟩] plan.kind plan.hint with
          ⟨e₂, t₁, ht, ha', -⟩ | ⟨_, _, _, ht, -⟩
        · rw [like, hs] at ht
          cases ht
          rw [ha] at he
          cases he
          exact ⟨_, by rw [ha']⟩
        · rw [like, hs] at ht
          cases ht
      · rcases allocate_limited t plan.role [⟨plan.field, plan.element⟩] plan.kind plan.hint with
          ⟨_, _, ht, -⟩ | ⟨h', b', t₁, -, ha', -, hd'⟩
        · rw [like, hs] at ht
          cases ht
        · rw [ha] at he
          rw [ha']
          exact ih _ (by rw [hd, hd']; exact same) he

/-- A failure gives back all that was made, down to the table of buffers. -/
theorem allocateAll_restores (sound : s.Sound) (he : allocateAll made s plans = (.error e, t)) :
    t.device = { s.device with
      buffers := (made.map (·.id)).foldl Table.erase s.device.buffers, nextId := t.device.nextId } := by
  induction plans generalizing made s with
  | nil => cases he
  | cons plan plans ih =>
      simp only [allocateAll] at he
      rcases allocate_limited s plan.role [⟨plan.field, plan.element⟩] plan.kind plan.hint with
        ⟨e₁, u, -, ha, hd⟩ | ⟨h, b, u, -, ha, hid, hd⟩
      · rw [ha] at he
        cases he
        rw [buffers_destroyAll, hd]
      · rw [ha] at he
        have hu : u.Sound := Session.sound_of_allocate sound ha
        -- no buffer had the new number
        have fresh : s.device.buffers.get? h.id = none := by
          rw [hid]
          exact sound.fresh plan.role [⟨plan.field, plan.element⟩] plan.kind
        rw [ih hu he, hd, List.map_append]
        simp only [Limited.put, Limited.issue, List.map_cons, List.map_nil, Table.foldl_erase_insert fresh]

/-- The counter takes no more bytes with its first element than it took without any. -/
theorem resize_counter {b : Buffers} (sound : s.Sound) (he : allocateAll [] s bufferPlans = (.ok b.toList, t)) :
    ∃ u, t.resize b.counter Capacities.empty.counter = (.ok (), u) := by
  have fresh := Buffers.fresh_of_allocateAll sound he
  have shapes := fresh.elements
  simp only [Buffers.storage, List.map_cons, List.map_nil, List.cons.injEq, Prod.mk.injEq] at shapes
  have limits : ExactRegistry.limits? t.device = some s.device.limits := by
    have stocks := allocateAll_stocks [] s bufferPlans
    rw [he] at stocks
    exact stocks.device (ExactRegistry.keeps_limits? _) rfl
  have admitted : s.device.admission .counter [⟨"oitCounter", .int32⟩] .storage = .ok () := by
    simp only [bufferPlans, allocateAll] at he
    rcases allocate_limited s .counter [⟨"oitCounter", .int32⟩] .storage ⟨true, true⟩ with
      ⟨e, u, -, ha, -⟩ | ⟨h, b, u, admitted, -⟩
    · rw [ha] at he
      cases he
    · exact admitted
  rw [Limited.admission, if_neg (by decide)] at admitted
  refine Session.resize_of_admits ⟨fresh.made _ b.counter_mem_toList, 0, fresh.rooms _ ?_, ?_⟩
  · simp [Buffers.storage]
  rw [limits]
  exact Or.inr (Device.admits_mono rfl shapes.1.1 admitted (by rw [shapes.1.2]; exact Nat.le_refl 4))

theorem allocateAll_of_error (sound : s.Sound) (he : allocateBuffers s = (.error e, t)) :
    allocateAll [] s bufferPlans = (.error e, t) := by
  rcases ha : allocateAll [] s bufferPlans with ⟨e' | made, u⟩
  · simp only [allocateBuffers, ha] at he
    cases he
    rfl
  · obtain ⟨fresh, all, plans, -⟩ := of_allocateAll_ok sound ha
    rw [List.nil_append] at all
    subst all
    obtain ⟨b, hb⟩ := ofList?_isSome (plans.length_eq.symm.trans rfl)
    have list := toList_of_ofList? hb
    obtain ⟨v, hv⟩ := resize_counter sound (list ▸ ha)
    simp only [allocateBuffers, ha, hb, hv] at he
    cases he

theorem Bundle.retries_limited : Bundle.Retries Limited.Restores := by
  intro s t e sound he
  have all := allocateAll_of_error sound he
  have stocks := allocateBuffers_stocks s
  rw [he] at stocks
  have limits : t.device.limits = s.device.limits := stocks.device (Limited.keeps_limits _) rfl
  obtain ⟨u, hu⟩ := allocateAll_refused [] limits all
  have again : allocateBuffers t = (.error e, u) := by rw [allocateBuffers, hu]
  refine ⟨u, again, ?_, allocateAll_restores (stocks.sound sound) hu, ?_⟩
  · have context := allocateBuffers_context t
    rw [again] at context
    exact context
  · obtain ⟨-, fresh, events, -⟩ := of_allocateBuffers_error (stocks.sound sound) again
    refine ⟨_, by rw [events, List.append_assoc], fun x hx => ?_⟩
    rcases List.mem_append.mp hx with hx | hx <;> obtain ⟨h, -, rfl⟩ := List.mem_map.mp hx <;> rfl

end

end Transparency.Fragment
