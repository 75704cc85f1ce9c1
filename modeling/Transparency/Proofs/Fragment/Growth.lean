import Transparency.Proofs.Fragment.Allocation
import Transparency.Proofs.Fragment.Sizing
import Transparency.Proofs.Frame.Context

/-!
# Growing the fragment buffers

No buffer is lost or cut when buffers grow, also where growth stops half way.
-/

namespace Transparency.Frame.Session
open Buffer (Handle Source)
open Device (Registry LawfulRegistry)

variable {σ : Type} [Registry σ] {s t u : Session σ} {e : Error}

/-- Every buffer is still there, and has no less room. -/
def Grows (s t : Session σ) : Prop := ∀ x n, s.room x = some n → ∃ m, t.room x = some m ∧ n ≤ m

theorem Grows.of_eq (h : t.room = s.room) : Grows s t :=
  fun _ n hn => ⟨n, by rw [h, hn], Nat.le_refl _⟩

theorem Grows.trans (h : Grows s t) (h' : Grows t u) : Grows s u := by
  intro x n hn
  obtain ⟨m, hm, hle⟩ := h x n hn
  obtain ⟨k, hk, hle'⟩ := h' x m hm
  exact ⟨k, hk, Nat.le_trans hle hle'⟩

theorem Grows.isSome (h : Grows s t) {x : Handle} (hx : (s.room x).isSome) : (t.room x).isSome := by
  obtain ⟨n, hn⟩ := Option.isSome_iff_exists.mp hx
  obtain ⟨m, hm, -⟩ := h x n hn
  rw [hm]; rfl

theorem Grows.le (h : Grows s t) {x : Handle} {n : Nat} (hx : ∃ m, s.room x = some m ∧ n ≤ m) :
    ∃ m, t.room x = some m ∧ n ≤ m := by
  obtain ⟨m, hm, hle⟩ := hx
  obtain ⟨k, hk, hle'⟩ := h x m hm
  exact ⟨k, hk, Nat.le_trans hle hle'⟩

variable [LawfulRegistry σ]

theorem resize_grows (s : Session σ) (h : Handle) (n : Nat) : Grows s (s.resize h n).2 := by
  rcases he : s.resize h n with ⟨_ | _, t⟩
  · exact .of_eq (of_resize_error he).1
  · obtain ⟨⟨after, ha, -, hmono⟩, -, -⟩ := of_resize_ok he
    intro x m hm
    by_cases same : x.id = h.id
    · rw [s.room_congr same] at hm
      exact ⟨after, by rw [t.room_congr same, ha], hmono m hm⟩
    · have ho := s.room_resize_other (n := n) same
      rw [he] at ho
      exact ⟨m, by rw [ho, hm], Nat.le_refl _⟩

theorem resizeAll_grows (s : Session σ) (rs : List (Handle × Nat)) : Grows s (s.resizeAll rs).2 := by
  induction rs generalizing s with
  | nil => exact .of_eq rfl
  | cons r rs ih =>
      have hr := s.resize_grows r.1 r.2
      simp only [resizeAll]
      split <;> rename_i he
      · rw [he] at hr; exact hr
      · rw [he] at hr; exact hr.trans (ih _)

theorem room_resizeAll_other (s : Session σ) (rs : List (Handle × Nat)) {x : Handle}
    (other : x.id ∉ rs.map (·.1.id)) : (s.resizeAll rs).2.room x = s.room x := by
  induction rs generalizing s with
  | nil => rfl
  | cons r rs ih =>
      simp only [List.map_cons, List.mem_cons, not_or] at other
      have hr := s.room_resize_other (n := r.2) other.1
      simp only [resizeAll]
      split <;> rename_i he
      · rw [he] at hr; exact hr
      · rw [he] at hr; rw [ih _ other.2]; exact hr

theorem of_resizeAll_ok {rs : List (Handle × Nat)} (he : s.resizeAll rs = (.ok (), t)) :
    (∀ r ∈ rs, ∃ m, t.room r.1 = some m ∧ r.2 ≤ m) ∧
      t.events = s.events ++ rs.map fun r => .resized r.1 r.2 := by
  induction rs generalizing s with
  | nil => cases he; simp
  | cons r rs ih =>
      simp only [resizeAll] at he
      split at he <;> rename_i hr
      · cases he
      · rename_i u
        obtain ⟨hrooms, hevents⟩ := ih he
        obtain ⟨⟨m, hm, hle, -⟩, -, hh⟩ := of_resize_ok hr
        refine ⟨fun x hx => ?_, ?_⟩
        · rcases List.mem_cons.mp hx with rfl | hx
          · have hg := u.resizeAll_grows rs
            rw [he] at hg
            exact hg.le ⟨m, hm, hle⟩
          · exact hrooms x hx
        · rw [hevents, events, hh]
          simp [events]

theorem events_resizeAll (s : Session σ) (rs : List (Handle × Nat)) :
    ∃ done : List (Handle × Nat),
      (s.resizeAll rs).2.events = s.events ++ done.map fun r => .resized r.1 r.2 := by
  induction rs generalizing s with
  | nil => exact ⟨[], by simp [resizeAll]⟩
  | cons r rs ih =>
      simp only [resizeAll]
      split <;> rename_i he
      · exact ⟨[], by simp [events, (of_resize_error he).2.2]⟩
      · rename_i t
        obtain ⟨done, hdone⟩ := ih t
        refine ⟨r :: done, ?_⟩
        rw [hdone, events, (of_resize_ok he).2.2]
        simp [events]

end Transparency.Frame.Session

namespace Transparency.Fragment
open Buffer (Handle)
open Device (Registry LawfulRegistry)
open Transparency.Frame (Session Event Context)
open Transparency.Frame.Session (Stocks Grows)

variable {σ : Type} [Registry σ] {s t : Session σ} {b : Buffers} {size : Size} {caps : Capacities}
  {e : Error}

/-- The room that the buffers ask for, in order. -/
def Buffers.demands (b : Buffers) (caps : Capacities) : List (Handle × Nat) :=
  [(b.data, caps.fragments), (b.indices, caps.fragments), (b.depth, caps.fragments),
    (b.counter, caps.counter)]

theorem Buffers.counter_mem_demands (b : Buffers) (caps : Capacities) :
    (b.counter, caps.counter) ∈ b.demands caps := by
  simp [demands]

theorem Buffers.mem_demands_of_fragments (caps : Capacities) {x : Handle}
    (hx : x ∈ [b.indices, b.data, b.depth]) : (x, caps.fragments) ∈ b.demands caps := by
  simp only [List.mem_cons, List.not_mem_nil, or_false] at hx
  rcases hx with rfl | rfl | rfl <;> simp [demands]

theorem Buffers.HeldIn.distinct_demands (h : b.HeldIn s) (caps : Capacities) :
    ((b.demands caps).map (·.1.id)).Nodup := by
  have distinct := h.distinct
  simp only [toList, entries, demands, List.map_cons, List.map_nil, List.nodup_cons, List.mem_cons,
    List.not_mem_nil, or_false, not_or] at distinct ⊢
  grind

theorem Buffers.HeldIn.uniforms_not_mem_demands (h : b.HeldIn s) {caps : Capacities} :
    b.uniforms.id ∉ (b.demands caps).map (·.1.id) := by
  have distinct := h.distinct
  simp only [toList, entries, demands, List.map_cons, List.map_nil, List.nodup_cons, List.mem_cons,
    List.not_mem_nil, or_false, not_or] at distinct ⊢
  grind

namespace Bundle

theorem growBuffers_eq (b : Buffers) (s : Session σ) (size : Size) (caps : Capacities) :
    growBuffers b s size caps = match s.resizeAll (b.demands caps) with
      | (.error error, session) => (.error error, session)
      | (.ok (), session) => session.upload b.uniforms ⟨"screenSize", size.bytes⟩ := rfl

theorem growBuffers_stocks (b : Buffers) (s : Session σ) (size : Size) (caps : Capacities) :
    Stocks s (growBuffers b s size caps).2 := by
  rw [growBuffers_eq]
  have hr := (Stocks.refl s).resizeAll (b.demands caps)
  split <;> rename_i he
  · rw [he] at hr; exact hr
  · rw [he] at hr; exact hr.upload _ _

theorem growBuffers_context (b : Buffers) (s : Session σ) (size : Size) (caps : Capacities) :
    (growBuffers b s size caps).2.context = s.context := by
  rw [growBuffers_eq]
  have hr := s.resizeAll_context (b.demands caps)
  split <;> rename_i he
  · rw [he] at hr; exact hr
  · rw [he] at hr; exact (Session.absorb_context _ _ _).trans hr

section
variable [LawfulRegistry σ]

theorem growBuffers_grows (b : Buffers) (s : Session σ) (size : Size) (caps : Capacities) :
    Grows s (growBuffers b s size caps).2 := by
  rw [growBuffers_eq]
  have hr := s.resizeAll_grows (b.demands caps)
  split <;> rename_i he
  · rw [he] at hr; exact hr
  · rw [he] at hr; exact hr.trans (.of_eq (Session.room_upload _ _ _))

theorem room_growBuffers_other (b : Buffers) (s : Session σ) (size : Size) (caps : Capacities)
    {x : Handle} (other : x.id ∉ b.toList.map (·.id)) :
    (growBuffers b s size caps).2.room x = s.room x := by
  rw [growBuffers_eq]
  have hr := s.room_resizeAll_other (b.demands caps) (x := x) (by
      simp only [Buffers.toList, Buffers.entries, Buffers.demands, List.map_cons, List.map_nil, List.mem_cons,
        List.not_mem_nil, or_false, not_or] at other ⊢
      exact ⟨other.2.2.1, other.2.1, other.2.2.2.1, other.1⟩)
  split <;> rename_i he
  · rw [he] at hr; exact hr
  · rw [he] at hr; rw [Session.room_upload]; exact hr

/-- Growth that succeeds leaves the room asked for, and uploads the size last. -/
theorem of_growBuffers_ok (he : growBuffers b s size caps = (.ok (), t)) :
    (∃ n, t.room b.counter = some n ∧ caps.counter ≤ n) ∧
      (∀ x ∈ [b.indices, b.data, b.depth], ∃ n, t.room x = some n ∧ caps.fragments ≤ n) ∧
      ∃ done : List (Handle × Nat), t.events =
        s.events ++ done.map (fun r => .resized r.1 r.2) ++ [.uploaded b.uniforms size.bytes] := by
  rw [growBuffers_eq] at he
  split at he <;> rename_i hr
  · cases he
  · obtain ⟨hrooms, hevents⟩ := Session.of_resizeAll_ok hr
    rename_i u
    have hup : t.room = u.room := by
      have h := u.room_upload b.uniforms ⟨"screenSize", size.bytes⟩
      rw [he] at h
      exact h
    obtain ⟨-, -, -, hh⟩ := Session.of_absorb_ok he
    refine ⟨?_, ?_, b.demands caps, ?_⟩
    · rw [hup]; exact hrooms _ (b.counter_mem_demands caps)
    · intro x hx
      rw [hup]
      exact hrooms _ (Buffers.mem_demands_of_fragments caps hx)
    · rw [Session.events, hh, List.map_append, ← Session.events, hevents]; rfl

theorem of_growBuffers_error (he : growBuffers b s size caps = (.error e, t)) :
    ∃ done : List (Handle × Nat), t.events = s.events ++ done.map fun r => .resized r.1 r.2 := by
  rw [growBuffers_eq] at he
  obtain ⟨done, hdone⟩ := s.events_resizeAll (b.demands caps)
  split at he <;> rename_i hr
  · cases he
    rw [hr] at hdone
    exact ⟨done, hdone⟩
  · rename_i u
    obtain ⟨-, -, -, hh⟩ := Session.of_absorb_error he
    rw [hr] at hdone
    exact ⟨done, by rw [Session.events, hh]; exact hdone⟩

end

/-! ## Calls on the bundle -/

variable (bundle : Bundle) (requested : Size)

theorem ensure_stocks (s : Session σ) : Stocks s (bundle.ensure s).session := by
  unfold ensure
  have ha := allocateBuffers_stocks s
  split
  · exact .refl s
  · split <;> rename_i he
    · rw [he] at ha; exact ha
    · rw [he] at ha; exact ha

theorem ensure_context (s : Session σ) : (bundle.ensure s).session.context = s.context := by
  unfold ensure
  have ha := allocateBuffers_context s
  split
  · rfl
  · split <;> rename_i he
    · rw [he] at ha; exact ha
    · rw [he] at ha; exact ha

theorem grow_stocks (s : Session σ) : Stocks s (bundle.grow s requested).session := by
  unfold grow
  split
  · exact .refl s
  · exact .refl s
  · rename_i size caps _
    split
    · exact .refl s
    · rename_i b _
      have hg := growBuffers_stocks b s size caps
      split <;> rename_i he
      · rw [he] at hg; exact hg
      · rw [he] at hg; exact hg.report _ _

theorem grow_context (s : Session σ) : (bundle.grow s requested).session.context = s.context := by
  unfold grow
  split
  · rfl
  · rfl
  · rename_i size caps _
    split
    · rfl
    · rename_i b _
      have hg := growBuffers_context b s size caps
      split <;> rename_i he
      · rw [he] at hg; exact hg
      · rw [he] at hg; exact hg

theorem grow_buffers (s : Session σ) : (bundle.grow s requested).bundle.buffers = bundle.buffers := by
  unfold grow
  split
  · rfl
  · rfl
  · split
    · rfl
    · split
      · rfl
      · rfl

theorem prepare_stocks (s : Session σ) : Stocks s (bundle.prepare s requested).session := by
  unfold prepare
  split
  · exact .refl s
  · have he := bundle.ensure_stocks s
    dsimp only
    split
    · exact he
    · exact (he.withContext _).trans (grow_stocks _ _ _)

/-- Being prepared, a bundle changes nothing in the frame context but its own entries. -/
theorem prepare_context (s : Session σ) :
    (bundle.prepare s requested).session.context = s.context ∨
      ∃ b, (bundle.prepare s requested).bundle.buffers = some b ∧
        (bundle.prepare s requested).session.context = b.publish s.context := by
  unfold prepare
  split
  · exact Or.inl rfl
  · have hc := bundle.ensure_context s
    dsimp only
    split
    · exact Or.inl hc
    · rename_i b' _
      simp only [grow_context, grow_buffers, Session.withContext, publish]
      split
      · exact Or.inl hc
      · rename_i b hb
        exact Or.inr ⟨b, hb, by rw [hc]⟩

/-- The session in which the bundle grows, once its buffers are made and in the frame context. -/
def opened (bundle : Bundle) (s : Session σ) : Session σ :=
  (bundle.ensure s).session.withContext
    ((bundle.ensure s).bundle.publish (bundle.ensure s).session.context)

theorem prepare_eq_grow {bundle : Bundle} {s : Session σ} {requested : Size}
    (nonneg : requested.isNegative = false) (made : (bundle.ensure s).result = .ok b) :
    bundle.prepare s requested =
      { result := ((bundle.ensure s).bundle.grow (bundle.opened s) requested).result.map fun _ => ()
        bundle := ((bundle.ensure s).bundle.grow (bundle.opened s) requested).bundle
        session := ((bundle.ensure s).bundle.grow (bundle.opened s) requested).session } := by
  unfold prepare
  rw [nonneg]
  simp only [Bool.false_eq_true, if_false, made]
  rfl

/-- Once the buffers are made, they are in the frame context, whether they could grow or not. -/
theorem prepare_published {bundle : Bundle} {s : Session σ} {requested : Size}
    (nonneg : requested.isNegative = false) (made : (bundle.ensure s).result = .ok b)
    (hb : (bundle.ensure s).bundle.buffers = some b) :
    (bundle.prepare s requested).bundle.buffers = some b ∧
      (bundle.prepare s requested).session.context = b.publish s.context := by
  rw [prepare_eq_grow nonneg made]
  exact ⟨by rw [grow_buffers, hb], by
    rw [grow_context, opened, Session.withContext, publish, hb, ensure_context]⟩

theorem release_stocks (s : Session σ) : Stocks s (bundle.release s).2 := by
  unfold release
  split
  · exact .refl s
  · exact ((Stocks.refl s).destroyAll _).report _ _

theorem release_context (s : Session σ) : (bundle.release s).2.context = s.context := by
  unfold release
  split
  · rfl
  · exact Session.destroyAll_context _ _

end Bundle

end Transparency.Fragment
