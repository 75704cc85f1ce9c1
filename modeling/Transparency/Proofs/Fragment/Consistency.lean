import Mathlib.Data.List.Induction
import Transparency.Proofs.Fragment.Growth

/-!
# The bundle and its device stay consistent

Whatever calls are made on a bundle, and whichever of the device calls below them fail: all five buffers
are there or none is, the recorded size is one that they have room for, and the shaders were told that
size.
-/

namespace Transparency.Fragment
open Buffer (Handle Role)
open Device (Registry LawfulRegistry Recorder)
open Transparency.Frame (Session Event Context)
open Transparency.Frame.Session (Stocks Grows)

/-! ## What a buffer was told last -/

/-- What an event changes of it; a new buffer was told nothing. -/
def tell (h : Handle) (last : Option (List UInt8)) : Event → Option (List UInt8)
  | .allocated h' => if h'.id = h.id then none else last
  | .uploaded h' bytes => if h'.id = h.id then some bytes else last
  | _ => last

/-- The bytes of the last upload into a buffer since it was made. -/
def told (h : Handle) (events : List Event) : Option (List UInt8) := events.foldl (tell h) none

section
variable {h : Handle} {es : List Event}

theorem told_concat (e : Event) : told h (es ++ [e]) = tell h (told h es) e := by
  rw [told, List.foldl_append]; rfl

/-- Events that are neither about a buffer being made nor about an upload tell nothing. -/
theorem told_append {new : List Event} (quiet : ∀ e ∈ new, ∀ last, tell h last e = last) :
    told h (es ++ new) = told h es := by
  induction new using List.reverseRecOn with
  | nil => simp
  | append_singleton new e ih =>
      rw [← List.append_assoc, told_concat, quiet e (by simp)]
      exact ih fun e' he' => quiet e' (List.mem_append_left _ he')

/-- Commands and notes tell nothing. -/
theorem told_of_quiet {new : List Event} (quiet : ∀ e ∈ new, e.isStock = false) :
    told h (es ++ new) = told h es :=
  told_append fun e he last => by
    have := quiet e he
    cases e <;> first | rfl | cases this

theorem told_resized (done : List (Handle × Nat)) :
    told h (es ++ done.map fun r => .resized r.1 r.2) = told h es :=
  told_append (by simp only [List.mem_map]; rintro _ ⟨r, -, rfl⟩ _; rfl)

theorem told_destroyed (hs : List Handle) : told h (es ++ hs.map .destroyed) = told h es :=
  told_append (by simp only [List.mem_map]; rintro _ ⟨x, -, rfl⟩ _; rfl)

/-- To make other buffers tells a buffer nothing. -/
theorem told_allocated_other {hs : List Handle} (other : ∀ x ∈ hs, x.id ≠ h.id) :
    told h (es ++ hs.map .allocated) = told h es :=
  told_append (by simp only [List.mem_map]; rintro _ ⟨x, hx, rfl⟩ _; exact if_neg (other x hx))

theorem told_allocated {hs : List Handle} (made : h.id ∈ hs.map (·.id)) :
    told h (es ++ hs.map .allocated) = none := by
  induction hs using List.reverseRecOn with
  | nil => simp at made
  | append_singleton hs x ih =>
      rw [List.map_append, ← List.append_assoc, List.map_singleton, told_concat, tell]
      by_cases last : x.id = h.id
      · rw [if_pos last]
      · rw [if_neg last]
        apply ih
        simp only [List.map_append, List.map_singleton, List.mem_append, List.mem_singleton] at made
        exact made.resolve_right (Ne.symm last)

end

/-! ## Room for a screen -/

variable {σ : Type} [Registry σ] {s t : Session σ} {bundle : Bundle} {b : Buffers} {size : Size}

theorem Buffers.HeldIn.of_isSome (h : b.HeldIn s)
    (live : ∀ x ∈ b.toList, (s.room x).isSome → (t.room x).isSome) : b.HeldIn t :=
  ⟨h.roles, h.distinct, fun x hx => live x hx (h.live x hx)⟩

/-- The buffers are there, one list head fits for every pixel of a screen of a size, and the shaders were told
that size. -/
structure Buffers.Roomy (b : Buffers) (size : Size) (s : Session σ) : Prop extends b.HeldIn s where
  counters : ∃ n, s.room b.counter = some n ∧ size.columns * size.rows + 1 ≤ n
  told : told b.uniforms s.events = if size = {} then none else some size.bytes

section
variable [LawfulRegistry σ]

theorem Buffers.roomy_of_allocateBuffers (sound : s.Sound) (he : allocateBuffers s = (.ok b, t)) :
    b.Roomy {} t := by
  obtain ⟨held, counters, -, -, hevents⟩ := of_allocateBuffers_ok sound he
  refine { held with counters, told := ?_ }
  rw [hevents, told_append (by simp [tell]), told_allocated (by simp [toList, entries])]
  rfl

/-- Growth that stops half way takes nothing from what is there. -/
theorem Buffers.Roomy.of_growBuffers_error {e : Error} {requested : Size} {caps : Capacities}
    (h : b.Roomy size s) (he : Bundle.growBuffers b s requested caps = (.error e, t)) : b.Roomy size t := by
  have hgrows := Bundle.growBuffers_grows b s requested caps
  obtain ⟨done, hevents⟩ := Bundle.of_growBuffers_error he
  rw [he] at hgrows
  refine { h.toHeldIn.of_isSome fun x _ => hgrows.isSome with counters := hgrows.le h.counters, told := ?_ }
  rw [hevents, told_resized]
  exact h.told

theorem Buffers.Roomy.of_growBuffers_ok {requested : Size} (h : b.Roomy size s) (nonempty : requested ≠ {})
    (he : Bundle.growBuffers b s requested (.need requested) = (.ok (), t)) : b.Roomy requested t := by
  have hgrows := Bundle.growBuffers_grows b s requested (.need requested)
  obtain ⟨hcounter, -, done, hevents⟩ := Bundle.of_growBuffers_ok he
  rw [he] at hgrows
  refine { h.toHeldIn.of_isSome fun x _ => hgrows.isSome with counters := hcounter, told := ?_ }
  rw [hevents, told_concat, tell, if_pos rfl, if_neg nonempty]

end

/-! ## The invariant -/

/-- Buffers that are there, are the only ones that are there, have room for a screen of a size, and
were told that size. -/
structure Buffers.Serves (b : Buffers) (size : Size) (s : Session σ) : Prop extends b.HeldIn s where
  made : ∀ x ∈ b.toList, Event.allocated x ∈ s.events
  only : ∀ x, Event.allocated x ∈ s.events → (s.room x).isSome → x.id ∈ b.toList.map (·.id)
  nonneg : size.isNegative = false
  sized : Capacities.ofSize size = .ok (Capacities.need size)
  counters : ∃ n, s.room b.counter = some n ∧ size.columns * size.rows + 1 ≤ n
  fragments : ∀ x ∈ [b.indices, b.data, b.depth],
    ∃ n, s.room x = some n ∧ 8 * (size.columns * size.rows) ≤ n
  told : told b.uniforms s.events = if size = {} then none else some size.bytes

/-- What holds between a bundle and the session that it is used with. -/
structure Bundle.Consistent (bundle : Bundle) (s : Session σ) : Prop where
  unallocated : bundle.buffers = none →
    bundle.size = {} ∧ ∀ x, Event.allocated x ∈ s.events → s.room x = none
  allocated : ∀ b, bundle.buffers = some b → b.Serves bundle.size s
  uploads : ∀ x bytes, Event.uploaded x bytes ∈ s.events → x.role = .uniforms

/-! ## Every call keeps it -/

theorem Buffers.Serves.roomy (h : b.Serves size s) : b.Roomy size s :=
  { h.toHeldIn with counters := h.counters, told := h.told }

theorem Buffers.Serves.congr (h : b.Serves size s) (hr : t.room = s.room)
    (he : t.events = s.events) : b.Serves size t where
  toHeldIn := h.toHeldIn.of_isSome fun x _ => by rw [hr]; exact id
  made := by rw [he]; exact h.made
  only := by rw [he, hr]; exact h.only
  nonneg := h.nonneg
  sized := h.sized
  counters := by rw [hr]; exact h.counters
  fragments := by rw [hr]; exact h.fragments
  told := by rw [he]; exact h.told

namespace Bundle

theorem Consistent.congr (h : bundle.Consistent s) (hr : t.room = s.room)
    (he : t.events = s.events) : bundle.Consistent t where
  unallocated := by rw [he, hr]; exact h.unallocated
  allocated b hb := (h.allocated b hb).congr hr he
  uploads := by rw [he]; exact h.uploads

end Bundle

section
variable [LawfulRegistry σ]

theorem Buffers.serves_of_allocateBuffers (sound : s.Sound)
    (none : ∀ x, Event.allocated x ∈ s.events → s.room x = none)
    (he : allocateBuffers s = (.ok b, t)) : b.Serves {} t := by
  obtain ⟨held, -, -, hothers, hevents⟩ := of_allocateBuffers_ok sound he
  refine
    { roomy_of_allocateBuffers sound he with
      made := ?_, only := ?_, nonneg := rfl, sized := rfl, fragments := ?_ }
  · intro x hx
    rw [hevents]
    simp [hx]
  · intro x hx live
    by_contra other
    rw [hothers x other] at live
    rw [hevents] at hx
    simp only [List.mem_append, List.mem_map, List.mem_singleton, reduceCtorEq, or_false] at hx
    rcases hx with old | ⟨y, hy, same⟩
    · rw [none x old] at live; cases live
    · cases same
      exact other (List.mem_map.mpr ⟨x, hy, rfl⟩)
  · intro x hx
    have live := held.live x (by simp only [toList, entries, List.mem_cons] at hx ⊢; grind)
    obtain ⟨m, hm⟩ := Option.isSome_iff_exists.mp live
    exact ⟨m, hm, Nat.zero_le _⟩

theorem Buffers.Serves.of_growBuffers_error {e : Error} {requested : Size} {caps : Capacities}
    (h : b.Serves size s) (he : Bundle.growBuffers b s requested caps = (.error e, t)) :
    b.Serves size t := by
  have hgrows := Bundle.growBuffers_grows b s requested caps
  have hothers := fun x => Bundle.room_growBuffers_other b s requested caps (x := x)
  obtain ⟨done, hevents⟩ := Bundle.of_growBuffers_error he
  rw [he] at hgrows hothers
  refine
    { h.roomy.of_growBuffers_error he with
      made := ?_, only := ?_, nonneg := h.nonneg, sized := h.sized
      fragments := fun x hx => hgrows.le (h.fragments x hx) }
  · intro x hx
    rw [hevents]
    exact List.mem_append_left _ (h.made x hx)
  · intro x hx live
    by_contra other
    rw [hevents] at hx
    rw [hothers x other] at live
    exact other (h.only x (by simpa using hx) live)

theorem Buffers.Serves.of_growBuffers_ok {requested : Size} (h : b.Serves size s)
    (nonneg : requested.isNegative = false)
    (sized : Capacities.ofSize requested = .ok (Capacities.need requested)) (nonempty : requested ≠ {})
    (he : Bundle.growBuffers b s requested (Capacities.need requested) = (.ok (), t)) :
    b.Serves requested t := by
  have hothers := fun x => Bundle.room_growBuffers_other b s requested (.need requested) (x := x)
  obtain ⟨-, hfragments, done, hevents⟩ := Bundle.of_growBuffers_ok he
  rw [he] at hothers
  refine
    { h.roomy.of_growBuffers_ok nonempty he with
      made := ?_, only := ?_, nonneg, sized, fragments := hfragments }
  · intro x hx
    rw [hevents]
    exact List.mem_append_left _ (List.mem_append_left _ (h.made x hx))
  · intro x hx live
    by_contra other
    rw [hevents] at hx
    rw [hothers x other] at live
    exact other (h.only x (by simpa using hx) live)

end

namespace Bundle

theorem Consistent.publish (h : bundle.Consistent s) :
    bundle.Consistent (s.withContext (bundle.publish s.context)) := h.congr rfl rfl

section
variable [LawfulRegistry σ]

theorem Consistent.ensure (h : bundle.Consistent s) (sound : s.Sound) :
    (bundle.ensure s).bundle.Consistent (bundle.ensure s).session := by
  unfold Bundle.ensure
  split
  · exact h
  · rename_i hnone
    obtain ⟨hsize, hgone⟩ := h.unallocated hnone
    split <;> rename_i he
    · obtain ⟨hr, fresh, hevents, hfresh⟩ := of_allocateBuffers_error sound he
      refine ⟨fun _ => ⟨hsize, ?_⟩, by simp [hnone], ?_⟩
      · intro x hx
        rw [hevents] at hx
        simp only [List.mem_append, List.mem_map, reduceCtorEq, and_false, exists_false, or_false] at hx
        rcases hx with old | ⟨y, hy, same⟩
        · rw [hr]; exact hgone x old
        · cases same; exact hfresh x hy
      · intro x bytes hx
        rw [hevents] at hx
        exact h.uploads x bytes (by simpa using hx)
    · obtain ⟨-, -, -, -, hevents⟩ := of_allocateBuffers_ok sound he
      refine ⟨by simp, ?_, ?_⟩
      · intro b' hb
        cases hb
        exact Buffers.serves_of_allocateBuffers sound hgone he
      · intro x bytes hx
        rw [hevents] at hx
        exact h.uploads x bytes (by simpa using hx)

theorem Consistent.grow (h : bundle.Consistent s) (requested : Size) :
    (bundle.grow s requested).bundle.Consistent (bundle.grow s requested).session := by
  unfold Bundle.grow
  split
  · exact h
  · exact h
  · rename_i size caps hd
    split
    · exact h
    · rename_i b hb
      have hs := h.allocated b hb
      obtain ⟨nonneg, nonempty, sized, rfl⟩ := Decision.of_evaluate_grow hs.nonneg hd
      split <;> rename_i he
      · refine ⟨by simp [hb], ?_, ?_⟩
        · intro b' hb'
          cases hb.symm.trans hb'
          exact hs.of_growBuffers_error he
        · intro x bytes hx
          obtain ⟨done, hevents⟩ := of_growBuffers_error he
          rw [hevents] at hx
          exact h.uploads x bytes (by simpa using hx)
      · rename_i u
        have hu : Consistent { bundle with size } u := by
          refine ⟨by simp [hb], ?_, ?_⟩
          · intro b' hb'
            cases hb.symm.trans hb'
            exact hs.of_growBuffers_ok nonneg sized nonempty he
          · intro x bytes hx
            obtain ⟨-, -, done, hevents⟩ := of_growBuffers_ok he
            rw [hevents] at hx
            simp only [List.mem_append, List.mem_map, reduceCtorEq, and_false, exists_false, or_false,
              List.mem_singleton, Event.uploaded.injEq] at hx
            rcases hx with old | ⟨rfl, -⟩
            · exact h.uploads x bytes old
            · exact hs.roles_eq.2
        exact hu.congr rfl rfl

theorem Consistent.prepare (h : bundle.Consistent s) (sound : s.Sound) (requested : Size) :
    (bundle.prepare s requested).bundle.Consistent (bundle.prepare s requested).session := by
  unfold Bundle.prepare
  split
  · exact h
  · have he := h.ensure sound
    dsimp only
    split
    · exact he
    · exact he.publish.grow requested

theorem Consistent.release (h : bundle.Consistent s) :
    (bundle.release s).1.Consistent (bundle.release s).2 := by
  unfold Bundle.release
  split
  · rename_i hnone
    exact ⟨fun _ => ⟨rfl, (h.unallocated hnone).2⟩, by simp, h.uploads⟩
  · rename_i b hb
    have hs := h.allocated b hb
    have ht : Consistent {} (s.destroyAll b.toList) := by
      refine ⟨fun _ => ⟨rfl, ?_⟩, by simp, ?_⟩
      · intro x hx
        rw [Session.events_destroyAll] at hx
        rw [Session.room_destroyAll]
        split
        · rfl
        · -- the five buffers were all that was there
          rename_i other
          have hmade : Event.allocated x ∈ s.events := by simpa using hx
          exact Option.not_isSome_iff_eq_none.mp fun live => other (hs.only x hmade live)
      · intro x bytes hx
        rw [Session.events_destroyAll] at hx
        exact h.uploads x bytes (by simpa using hx)
    exact ht.congr rfl rfl

end

/-! ## Any calls, in any order -/

/-- A call on a bundle. -/
inductive Call
  | ensure
  | prepare (requested : Size)
  | grow (requested : Size)
  | publish
  | release
  deriving DecidableEq, Repr

/-- Makes a call; what it returns is not looked at. -/
def make : Bundle × Session σ → Call → Bundle × Session σ
  | (bundle, s), .ensure => ((bundle.ensure s).bundle, (bundle.ensure s).session)
  | (bundle, s), .prepare requested =>
    ((bundle.prepare s requested).bundle, (bundle.prepare s requested).session)
  | (bundle, s), .grow requested =>
    ((bundle.grow s requested).bundle, (bundle.grow s requested).session)
  | (bundle, s), .publish => (bundle, s.withContext (bundle.publish s.context))
  | (bundle, s), .release => bundle.release s

/-- A bundle without buffers and a device of which nothing was asked, after the calls. -/
def after (d : σ) (c : Context) (calls : List Call) : Bundle × Session σ :=
  calls.foldl make ({}, { context := c, device := d })

theorem make_stocks (r : Bundle × Session σ) (call : Call) : Stocks r.2 (make r call).2 := by
  cases call with
  | ensure => exact r.1.ensure_stocks r.2
  | prepare requested => exact r.1.prepare_stocks requested r.2
  | grow requested => exact r.1.grow_stocks requested r.2
  | publish => exact .withContext _ (.refl _)
  | release => exact r.1.release_stocks r.2

variable [LawfulRegistry σ]

theorem Consistent.make {r : Bundle × Session σ} (h : r.1.Consistent r.2) (sound : r.2.Sound)
    (call : Call) : (make r call).1.Consistent (make r call).2 := by
  cases call with
  | ensure => exact h.ensure sound
  | prepare requested => exact h.prepare sound requested
  | grow requested => exact h.grow requested
  | publish => exact h.publish
  | release => exact h.release

theorem Consistent.foldl_make {r : Bundle × Session σ} (h : r.1.Consistent r.2) (sound : r.2.Sound)
    (calls : List Call) : (calls.foldl Bundle.make r).1.Consistent (calls.foldl Bundle.make r).2 := by
  induction calls generalizing r with
  | nil => exact h
  | cons call calls ih => exact ih (h.make sound call) ((make_stocks r call).sound sound)

/-- Whatever is called, and whatever of it fails, the bundle and its device stay consistent. -/
theorem consistent_after (d : σ) (sound : LawfulRegistry.Sound d) (c : Context) (calls : List Call) :
    (after d c calls).1.Consistent (after d c calls).2 := by
  have start : Consistent {} ({ context := c, device := d } : Session σ) :=
    ⟨fun _ => ⟨rfl, by simp [Session.events]⟩, by simp, by simp [Session.events]⟩
  exact start.foldl_make (r := ({}, { context := c, device := d })) sound calls

theorem consistent_after_failed_resize :
    let d : Device.Faulty Recorder :=
      { device := {}, plan := fun n _ => if n = 8 then some (.unknownBuffer .depth) else none }
    let r := after d .empty [.prepare ⟨4, 3⟩, .prepare ⟨2, 5⟩, .release, .ensure]
    r.1.Consistent r.2 :=
  consistent_after _ (fun id live => by simp [Table.get?_empty] at live) _ _

end Bundle

end Transparency.Fragment
