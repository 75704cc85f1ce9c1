import Mathlib.Data.List.Forall2
import Transparency.Fragment.Bundle
import Transparency.Proofs.Frame.Calls

/-!
# Making the fragment buffers

Either all five buffers are there afterwards, or none of those that were made.
-/

namespace Transparency.Fragment
open Buffer (Role Kind Handle)
open Device (Registry LawfulRegistry initialCapacity)
open Transparency.Frame (Session Event)
open Transparency.Frame.Session (Stocks)

variable {σ : Type} [Registry σ] {s t : Session σ} {made handles : List Handle} {e : Error}

theorem allocateAll_stocks (made : List Handle) (s : Session σ) (plans : List BufferPlan) :
    Stocks s (allocateAll made s plans).2 := by
  induction plans generalizing made s with
  | nil => exact .refl s
  | cons plan rest ih =>
      simp only [allocateAll]
      have ha := (Stocks.refl s).allocate plan.role [⟨plan.field, plan.element⟩] plan.kind plan.hint
      split <;> rename_i he
      · rw [he] at ha; exact ha.destroyAll made
      · rw [he] at ha; exact ha.trans (ih _ _)

theorem allocateBuffers_stocks (s : Session σ) : Stocks s (allocateBuffers s).2 := by
  unfold allocateBuffers
  have ha := allocateAll_stocks [] s bufferPlans
  split <;> rename_i he
  · rw [he] at ha; exact ha
  · rw [he] at ha
    split
    · exact ha
    · rename_i buffers _
      have hr := ha.resize buffers.counter Capacities.empty.counter
      split <;> rename_i he'
      · rw [he'] at hr; exact hr.destroyAll _
      · rw [he'] at hr; exact hr.report _ _

theorem allocateAll_context (made : List Handle) (s : Session σ) (plans : List BufferPlan) :
    (allocateAll made s plans).2.context = s.context := by
  induction plans generalizing made s with
  | nil => rfl
  | cons plan rest ih =>
      simp only [allocateAll]
      have ha : (s.allocate plan.role [⟨plan.field, plan.element⟩] plan.kind plan.hint).2.context =
        s.context := Session.absorb_context _ _ _
      split <;> rename_i he
      · rw [he] at ha; rw [Session.destroyAll_context]; exact ha
      · rw [he] at ha; rw [ih]; exact ha

theorem allocateBuffers_context (s : Session σ) : (allocateBuffers s).2.context = s.context := by
  unfold allocateBuffers
  have ha := allocateAll_context [] s bufferPlans
  split <;> rename_i he
  · rw [he] at ha; exact ha
  · rw [he] at ha
    split
    · exact ha
    · rename_i made t _ buffers _
      have hr : (t.resize buffers.counter Capacities.empty.counter).2.context = t.context :=
        Session.absorb_context _ _ _
      split <;> rename_i he'
      · rw [he'] at hr; rw [Session.destroyAll_context]; exact hr.trans ha
      · rw [he'] at hr; exact hr.trans ha

/-! ## What is there afterwards -/

/-- What a made buffer has of its plan. -/
def BufferPlan.MadeIn (s : Session σ) (plan : BufferPlan) (h : Handle) : Prop :=
  h.role = plan.role ∧ s.room h = some (initialCapacity plan.kind)

theorem roles_of_madeIn {plans : List BufferPlan} {fresh : List Handle}
    (h : List.Forall₂ (BufferPlan.MadeIn s) plans fresh) :
    fresh.map (·.role) = plans.map (·.role) := by
  induction h with
  | nil => rfl
  | cons hm _ ih => simp only [List.map_cons, hm.1, ih]

theorem forall_of_forall₂ {α β : Type} {P : β → Prop} {as : List α} {bs : List β}
    (h : List.Forall₂ (fun _ b => P b) as bs) : ∀ b ∈ bs, P b := by
  induction h with
  | nil => simp
  | cons hb _ ih => exact List.forall_mem_cons.mpr ⟨hb, ih⟩

theorem live_of_madeIn {plans : List BufferPlan} {fresh : List Handle}
    (h : List.Forall₂ (BufferPlan.MadeIn s) plans fresh) : ∀ x ∈ fresh, (s.room x).isSome :=
  forall_of_forall₂ (h.imp fun _ _ hm => by rw [hm.2]; rfl)

/-- The five buffers are different ones, one for each role, and all are there. -/
structure Buffers.HeldIn (b : Buffers) (s : Session σ) : Prop where
  roles : b.toList.map (·.role) = Role.builtIn
  distinct : (b.toList.map (·.id)).Nodup
  live : ∀ x ∈ b.toList, (s.room x).isSome

theorem Buffers.counter_mem_toList (b : Buffers) : b.counter ∈ b.toList := by
  simp [toList, entries]

theorem Buffers.HeldIn.roles_eq {b : Buffers} (h : b.HeldIn s) :
    b.counter.role = .counter ∧ b.uniforms.role = .uniforms := by
  have hr := h.roles
  simp only [toList, entries, List.map_cons, List.map_nil, Role.builtIn, List.cons.injEq] at hr
  exact ⟨hr.1, hr.2.2.2.2.1⟩

theorem toList_of_ofList? {b : Buffers} (h : Buffers.ofList? handles = some b) :
    b.toList = handles := by
  unfold Buffers.ofList? at h
  split at h
  · cases h; rfl
  · cases h

theorem ofList?_isSome (h : handles.length = 5) : ∃ b, Buffers.ofList? handles = some b := by
  match handles, h with
  | [_, _, _, _, _], _ => exact ⟨_, rfl⟩

/-- The buffers are made, and then the counter gets room for the allocator. -/
theorem allocateBuffers_eq_ok {b : Buffers} (he : allocateBuffers s = (.ok b, t)) : ∃ u v,
    allocateAll [] s bufferPlans = (.ok b.toList, u) ∧
      u.resize b.counter Capacities.empty.counter = (.ok (), v) ∧ Session.Alike v t := by
  unfold allocateBuffers at he
  split at he <;> rename_i hc
  · cases he
  · split at he <;> rename_i hb
    · cases he
    · split at he <;> rename_i hr
      · cases he
      · cases he
        rw [toList_of_ofList? hb]
        exact ⟨_, _, hc, hr, Session.alike_report _ _ _⟩

theorem allocateAll_of_willing {P : σ → Prop} (willing : Device.Willing P) (hs : P s.device)
    (made : List Handle) (plans : List BufferPlan) :
    ∃ handles t, allocateAll made s plans = (.ok handles, t) := by
  induction plans generalizing made s with
  | nil => exact ⟨made, s, rfl⟩
  | cons plan rest ih =>
      obtain ⟨h, hr⟩ := willing.allocates plan.role [⟨plan.field, plan.element⟩] plan.kind plan.hint hs
      obtain ⟨t, he⟩ : ∃ t, s.allocate plan.role [⟨plan.field, plan.element⟩] plan.kind plan.hint =
        (.ok h, t) := Session.absorb_ok hr
      have ht : P t.device := by
        have hstocks := (Stocks.refl s).allocate plan.role [⟨plan.field, plan.element⟩] plan.kind plan.hint
        rw [he] at hstocks
        exact hstocks.device willing.toRegistryKeeps hs
      rw [allocateAll, he]
      exact ih ht _

variable [LawfulRegistry σ]

/-- If one buffer cannot be made, those made for the plans before and those made earlier are gone. -/
theorem of_allocateAll_error {plans : List BufferPlan} (sound : s.Sound)
    (he : allocateAll made s plans = (.error e, t)) :
    (∀ x, t.room x = if x.id ∈ made.map (·.id) then none else s.room x) ∧
      ∃ fresh, t.events = s.events ++ fresh.map .allocated ++ (made ++ fresh).map .destroyed ∧
        ∀ x ∈ fresh, t.room x = none := by
  induction plans generalizing made s with
  | nil => cases he
  | cons plan rest ih =>
      simp only [allocateAll] at he
      split at he <;> rename_i hc
      · cases he
        obtain ⟨hr, -, hh⟩ := Session.of_allocate_error hc
        refine ⟨fun x => ?_, [], ?_, by simp⟩
        · rw [Session.room_destroyAll, hr]
        · rw [Session.events_destroyAll]
          simp [Session.events, hh]
      · rename_i h u
        obtain ⟨-, fresh, hr, -, hh⟩ := Session.of_allocate_ok sound hc
        have hu : u.Sound := Session.sound_of_allocate sound hc
        obtain ⟨hrooms, others, hevents, hgone⟩ := ih hu he
        have hrooms' : ∀ x, t.room x = if x.id ∈ made.map (·.id) then none else s.room x := by
          intro x
          rw [hrooms, hr]
          by_cases same : x.id = h.id
          · simp [same, s.room_congr same, fresh]
          · simp [same]
        refine ⟨hrooms', h :: others, ?_, ?_⟩
        · rw [hevents, Session.events, hh]
          simp [Session.events]
        · intro x hx
          rcases List.mem_cons.mp hx with rfl | hx
          · rw [hrooms]; simp
          · exact hgone x hx

/-- If all buffers can be made, each is new and follows its plan. -/
theorem of_allocateAll_ok {plans : List BufferPlan} (sound : s.Sound)
    (he : allocateAll made s plans = (.ok handles, t)) :
    ∃ fresh, handles = made ++ fresh ∧ List.Forall₂ (BufferPlan.MadeIn t) plans fresh ∧
      (fresh.map (·.id)).Nodup ∧ (∀ x ∈ fresh, s.room x = none) ∧
      (∀ x, x.id ∉ fresh.map (·.id) → t.room x = s.room x) ∧
      t.events = s.events ++ fresh.map .allocated := by
  induction plans generalizing made s with
  | nil =>
      cases he
      exact ⟨[], by simp⟩
  | cons plan rest ih =>
      simp only [allocateAll] at he
      split at he <;> rename_i hc
      · cases he
      · rename_i h u
        obtain ⟨hrole, hnew, hr, -, hh⟩ := Session.of_allocate_ok sound hc
        have hu : u.Sound := Session.sound_of_allocate sound hc
        obtain ⟨fresh, hall, hplans, hdistinct, hfresh, hothers, hevents⟩ := ih hu he
        -- the first buffer is there when the others are made, so none of them takes its number
        have hkept : h.id ∉ fresh.map (·.id) := by
          intro hmem
          obtain ⟨x, hx, same⟩ := List.mem_map.mp hmem
          have hx' := hfresh x hx
          rw [hr, if_pos same] at hx'
          cases hx'
        refine ⟨h :: fresh, by simp [hall], .cons ⟨hrole, ?_⟩ hplans, ?_, ?_, ?_, ?_⟩
        · rw [hothers h hkept, hr, if_pos rfl]
        · exact List.nodup_cons.mpr ⟨hkept, hdistinct⟩
        · intro x hx
          rcases List.mem_cons.mp hx with rfl | hx
          · exact hnew
          · have hx' := hfresh x hx
            rw [hr] at hx'
            split at hx'
            · cases hx'
            · exact hx'
        · intro x hx
          simp only [List.map_cons, List.mem_cons, not_or] at hx
          rw [hothers x hx.2, hr, if_neg hx.1]
        · rw [hevents, Session.events, hh]
          simp [Session.events]

/-- What a new buffer has, and keeps while others are made, all buffers have in the end. -/
theorem forall₂_of_allocateAll {Q : BufferPlan → Handle → σ → Prop} {plans : List BufferPlan}
    (new : ∀ {d : σ} {plan : BufferPlan} {h : Handle}, LawfulRegistry.Sound d →
      (Registry.allocate d plan.role [⟨plan.field, plan.element⟩] plan.kind plan.hint).result = .ok h →
      Q plan h (Registry.allocate d plan.role [⟨plan.field, plan.element⟩] plan.kind plan.hint).device)
    (kept : ∀ {d : σ} {plan plan' : BufferPlan} {h h' : Handle}, LawfulRegistry.Sound d → Q plan h d →
      (Registry.allocate d plan'.role [⟨plan'.field, plan'.element⟩] plan'.kind plan'.hint).result =
        .ok h' →
      Q plan h
        (Registry.allocate d plan'.role [⟨plan'.field, plan'.element⟩] plan'.kind plan'.hint).device)
    (sound : s.Sound) (he : allocateAll made s plans = (.ok handles, t)) :
    (∀ plan h, Q plan h s.device → Q plan h t.device) ∧
      ∃ fresh, handles = made ++ fresh ∧
        List.Forall₂ (fun plan h => Q plan h t.device) plans fresh := by
  induction plans generalizing made s with
  | nil =>
      cases he
      exact ⟨fun _ _ => id, [], by simp⟩
  | cons plan rest ih =>
      simp only [allocateAll] at he
      split at he <;> rename_i hc
      · cases he
      · rename_i h u
        obtain ⟨hr, hd, -, -⟩ := Session.of_absorb_ok hc
        have hu : u.Sound := Session.sound_of_allocate sound hc
        obtain ⟨hkept, fresh, hall, hplans⟩ := ih hu he
        refine ⟨fun plan' h' hq => hkept _ _ ?_, h :: fresh, by simp [hall], .cons (hkept _ _ ?_) hplans⟩
        · rw [hd]; exact kept sound hq hr
        · rw [hd]; exact new sound hr

theorem allocateBuffers_of_willing {P : σ → Prop} (willing : Device.Willing P) (hs : P s.device)
    (sound : s.Sound) : ∃ b t, allocateBuffers s = (.ok b, t) := by
  obtain ⟨handles, t, he⟩ := allocateAll_of_willing willing hs [] bufferPlans
  have ht : P t.device := by
    have hstocks := allocateAll_stocks [] s bufferPlans
    rw [he] at hstocks
    exact hstocks.device willing.toRegistryKeeps hs
  obtain ⟨fresh, hall, hplans, -, -, -, -⟩ := of_allocateAll_ok sound he
  rw [List.nil_append] at hall
  subst handles
  obtain ⟨b, hb⟩ := ofList?_isSome hplans.length_eq.symm
  have live : (t.room b.counter).isSome := by
    apply live_of_madeIn hplans b.counter
    rw [← toList_of_ofList? hb]
    exact b.counter_mem_toList
  obtain ⟨u, hu⟩ : ∃ u, t.resize b.counter Capacities.empty.counter = (.ok (), u) :=
    Session.absorb_ok (willing.resizes ht live)
  rw [allocateBuffers, he]
  simp only [hb, hu]
  exact ⟨b, _, rfl⟩

/-- A failure leaves all capacities as they were, and no buffer that was made. -/
theorem of_allocateBuffers_error (sound : s.Sound) (he : allocateBuffers s = (.error e, t)) :
    t.room = s.room ∧ ∃ fresh : List Handle,
      t.events = s.events ++ fresh.map .allocated ++ fresh.map .destroyed ∧
        ∀ x ∈ fresh, t.room x = none := by
  unfold allocateBuffers at he
  split at he <;> rename_i hc
  · cases he
    obtain ⟨hrooms, fresh, hevents, hgone⟩ := of_allocateAll_error sound hc
    refine ⟨?_, fresh, by simpa using hevents, hgone⟩
    funext x
    simpa using hrooms x
  · rename_i made u
    obtain ⟨fresh, hall, hplans, -, hnew, hothers, hevents⟩ := of_allocateAll_ok sound hc
    rw [List.nil_append] at hall
    subst made
    obtain ⟨b, hb⟩ : ∃ b, Buffers.ofList? fresh = some b := ofList?_isSome hplans.length_eq.symm
    simp only [hb] at he
    split at he <;> rename_i hr
    · cases he
      obtain ⟨hsame, -, hhistory⟩ := Session.of_resize_error hr
      refine ⟨?_, fresh, ?_, ?_⟩
      · funext x
        rw [Session.room_destroyAll, hsame]
        split
        · -- a buffer that is given back again was not there before
          rename_i hmem
          obtain ⟨y, hy, hid⟩ := List.mem_map.mp hmem
          rw [← s.room_congr hid, hnew y hy]
        · rename_i hmem
          exact hothers x hmem
      · rw [Session.events_destroyAll, ← hevents, Session.events, hhistory]; rfl
      · intro x hx
        rw [Session.room_destroyAll, if_pos (List.mem_map.mpr ⟨x, hx, rfl⟩)]
    · cases he

theorem of_allocateBuffers_ok {b : Buffers} (sound : s.Sound)
    (he : allocateBuffers s = (.ok b, t)) :
    b.HeldIn t ∧ (∃ n, t.room b.counter = some n ∧ 1 ≤ n) ∧ (∀ x ∈ b.toList, s.room x = none) ∧
      (∀ x, x.id ∉ b.toList.map (·.id) → t.room x = s.room x) ∧
      t.events = s.events ++ b.toList.map .allocated ++ [.resized b.counter 1] := by
  obtain ⟨u, v, hc, hr, ha⟩ := allocateBuffers_eq_ok he
  obtain ⟨fresh, hall, hplans, hdistinct, hnew, hothers, hevents⟩ := of_allocateAll_ok sound hc
  rw [List.nil_append] at hall
  subst hall
  obtain ⟨⟨n, hn, hle, -⟩, -, hhistory⟩ := Session.of_resize_ok hr
  have hkept : ∀ x : Handle, x.id ≠ b.counter.id → t.room x = u.room x := by
    intro x hx
    have h := u.room_resize_other (n := Capacities.empty.counter) hx
    rw [hr] at h
    rw [ha.room]
    exact h
  refine ⟨⟨roles_of_madeIn hplans, hdistinct, ?_⟩, ⟨n, by rw [ha.room, hn], hle⟩, hnew, ?_, ?_⟩
  · intro x hx
    by_cases same : x.id = b.counter.id
    · rw [t.room_congr same, ha.room, hn]; rfl
    · rw [hkept x same]
      exact live_of_madeIn hplans x hx
  · intro x hx
    have hc : x.id ≠ b.counter.id := fun same =>
      hx (List.mem_map.mpr ⟨b.counter, b.counter_mem_toList, same.symm⟩)
    exact (hkept x hc).trans (hothers x hx)
  · rw [Session.events, ha.history, hhistory, List.map_append, ← Session.events, hevents]
    rfl

end Transparency.Fragment
