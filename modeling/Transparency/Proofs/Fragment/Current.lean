import Transparency.Proofs.Fragment.Consistency

/-!
# The buffers that passes bind

A bundle that gives its buffers back leaves their handles in the frame context. They are dead: whoever
reaches a buffer through the frame context reaches one of the bundle as it is now.
-/

namespace Transparency.Fragment
open Buffer (Binding)
open Device (Registry LawfulRegistry)
open Transparency.Frame (Session Event)

variable {σ : Type} [Registry σ] {s t : Session σ} {bundle : Bundle} {b : Buffers}

/-- A pass binds these buffers in order, all of them are there, and have room for a screen of a size. -/
structure Buffers.BoundIn (b : Buffers) (size : Size) (d : σ) (bindings : List Binding) : Prop where
  inOrder : bindings.map (fun x => (x.binding.toNat, x.buffer)) =
    [(0, b.counter), (1, b.indices), (2, b.data), (3, b.depth), (4, b.uniforms)]
  live : ∀ x ∈ bindings, (Registry.capacity? d x.buffer).isSome
  roomy : ∃ caps, Capacities.ofSize size = .ok caps ∧
    (∃ n, Registry.capacity? d b.counter = some n ∧ caps.counter ≤ n) ∧
    ∀ x ∈ [b.indices, b.data, b.depth], ∃ n, Registry.capacity? d x = some n ∧ caps.fragments ≤ n

namespace Bundle

/-- What a pass binds are the buffers that the bundle has now, with room for the size that it records. -/
def Backs (bundle : Bundle) (d : σ) (bindings : List Binding) : Prop :=
  ∃ b, bundle.buffers = some b ∧ b.BoundIn bundle.size d bindings

/-- The buffers in the frame context are those of the bundle, or their counter is gone. -/
def Current (bundle : Bundle) (s : Session σ) : Prop :=
  ∀ b, Buffers.ofContext? s.context = some b → bundle.buffers = some b ∨ s.room b.counter = none

/-! ## What is bound -/

theorem Consistent.backs {d : σ} (h : bundle.Consistent s) (hb : bundle.buffers = some b)
    (hd : Registry.capacity? d = s.room) (access : Buffer.Access) :
    bundle.Backs d (b.bindings access) := by
  have serves := h.allocated b hb
  refine ⟨b, hb, rfl, fun x hx => ?_, .need bundle.size, serves.sized, ?_, ?_⟩
  · have held : x.buffer ∈ b.toList := by
      simp only [Buffers.bindings, List.mem_cons, List.not_mem_nil, or_false] at hx
      rcases hx with rfl | rfl | rfl | rfl | rfl <;> simp [Buffers.toList, Buffers.entries]
    rw [hd]
    exact serves.live x.buffer held
  · rw [hd]; exact serves.counters
  · rw [hd]; exact serves.fragments

/-- Where the counter in the frame context is there, it is that of the bundle. -/
theorem Current.of_live (h : bundle.Current s) (hb : Buffers.ofContext? s.context = some b)
    (live : (s.room b.counter).isSome) : bundle.buffers = some b := by
  rcases h b hb with current | gone
  · exact current
  · rw [gone] at live; cases live

/-! ## What is done without the bundle -/

/-- What tasks do while they are executed is no concern of the bundle. -/
theorem Consistent.append (h : bundle.Consistent s) (new : List Event) (hr : t.room = s.room)
    (he : t.events = s.events ++ new) (quiet : ∀ e ∈ new, e.isStock = false) :
    bundle.Consistent t := by
  have old {e : Event} (stock : e.isStock = true) (hm : e ∈ t.events) : e ∈ s.events := by
    rw [he] at hm
    rcases List.mem_append.mp hm with hm | hm
    · exact hm
    · rw [quiet e hm] at stock; cases stock
  refine ⟨fun hnone => ?_, fun b hb => ?_, fun x bytes hm => h.uploads x bytes (old rfl hm)⟩
  · obtain ⟨hsize, gone⟩ := h.unallocated hnone
    exact ⟨hsize, fun x hm => by rw [hr]; exact gone x (old rfl hm)⟩
  · have hs := h.allocated b hb
    refine
      { hs.toHeldIn.of_isSome fun x _ => by rw [hr]; exact id with
        made := fun x hx => ?_, only := fun x hm live => ?_, nonneg := hs.nonneg, sized := hs.sized
        counters := by rw [hr]; exact hs.counters, fragments := by rw [hr]; exact hs.fragments
        told := ?_ }
    · rw [he]
      exact List.mem_append_left _ (hs.made x hx)
    · rw [hr] at live
      exact hs.only x (old rfl hm) live
    · rw [he, told_of_quiet quiet]
      exact hs.told

theorem Current.congr (h : bundle.Current s) (hr : t.room = s.room)
    (hc : Buffers.ofContext? t.context = Buffers.ofContext? s.context) : bundle.Current t := by
  intro b hb
  rw [hc] at hb
  rw [hr]
  exact h b hb

/-! ## What is done with the bundle -/

theorem ensure_ok {bundle : Bundle} (he : (bundle.ensure s).result = .ok b) :
    (bundle.ensure s).bundle.buffers = some b := by
  unfold ensure at he ⊢
  split at he
  · rename_i b' hb
    cases he
    exact hb
  · split at he <;> cases he
    rfl

theorem ensure_error [LawfulRegistry σ] {bundle : Bundle} {e : Error} (sound : s.Sound)
    (he : (bundle.ensure s).result = .error e) :
    (bundle.ensure s).bundle = bundle ∧ (bundle.ensure s).session.room = s.room := by
  unfold ensure at he ⊢
  split at he
  · cases he
  · split at he <;> rename_i ha
    · exact ⟨rfl, (of_allocateBuffers_error sound ha).1⟩
    · cases he

variable [LawfulRegistry σ]

/-- A bundle that gets as far as having buffers puts them into the frame context, whether they can grow or
not; before that nothing has changed. -/
theorem Current.prepare (h : bundle.Current s) (sound : s.Sound) (requested : Size) :
    (bundle.prepare s requested).bundle.Current (bundle.prepare s requested).session := by
  cases negative : requested.isNegative with
  | true =>
      rw [Bundle.prepare, negative, if_pos rfl]
      exact h
  | false =>
      cases made : (bundle.ensure s).result with
      | error e =>
          obtain ⟨hb, hr⟩ := ensure_error sound made
          rw [Bundle.prepare, negative, if_neg Bool.false_ne_true]
          simp only [made, hb]
          exact h.congr hr (by rw [ensure_context])
      | ok b =>
          obtain ⟨hb, hc⟩ := prepare_published negative made (ensure_ok made)
          intro b' hb'
          rw [hc, Buffers.ofContext?_publish] at hb'
          cases hb'
          exact Or.inl hb

/-- The handles of buffers that were given back stay in the frame context, and are dead. -/
theorem Current.release (h : bundle.Current s) :
    (bundle.release s).1.Current (bundle.release s).2 := by
  unfold Bundle.release
  split
  · rename_i none
    intro b hb
    rcases h b hb with current | gone
    · rw [none] at current; cases current
    · exact Or.inr gone
  · rename_i owned hb
    intro b hb'
    refine Or.inr ?_
    show (s.destroyAll owned.toList).room b.counter = none
    rw [Session.report, Session.destroyAll_context] at hb'
    rw [Session.room_destroyAll]
    split
    · rfl
    · rename_i other
      rcases h b hb' with current | gone
      · cases hb.symm.trans current
        exact absurd (List.mem_map.mpr ⟨owned.counter, owned.counter_mem_toList, rfl⟩) other
      · exact gone

end Bundle

end Transparency.Fragment
