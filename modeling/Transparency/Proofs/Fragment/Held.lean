import Transparency.Proofs.Fragment.Growth

/-!
# Buffers that stay

Being prepared, a bundle takes no buffer away, neither its own nor one of another bundle: what is given
back when a call fails is what that call had made.
-/

namespace Transparency.Fragment
open Buffer (Handle)
open Device (Registry LawfulRegistry)
open Transparency.Frame (Session Context)

variable {σ : Type} [Registry σ] {s t u : Session σ} {b : Buffers} {bundle : Bundle}

/-- Every buffer is still there. -/
def Keeps (s t : Session σ) : Prop := ∀ x, (s.room x).isSome → (t.room x).isSome

theorem Keeps.of_eq (h : t.room = s.room) : Keeps s t := fun x hx => by rw [h]; exact hx

theorem Keeps.trans (h : Keeps s t) (h' : Keeps t u) : Keeps s u := fun x hx => h' x (h x hx)

theorem Buffers.HeldIn.keeps (h : b.HeldIn s) (hk : Keeps s t) : b.HeldIn t :=
  ⟨h.roles, h.distinct, fun x hx => hk x (h.live x hx)⟩

/-- All buffers of a bundle are there. -/
def Bundle.Held (bundle : Bundle) (s : Session σ) : Prop := ∀ b, bundle.buffers = some b → b.HeldIn s

namespace Bundle

theorem held_empty (s : Session σ) : Held {} s := fun _ h => by cases h

theorem Held.keeps (h : bundle.Held s) (hk : Keeps s t) : bundle.Held t :=
  fun b hb => (h b hb).keeps hk

theorem held_release (s : Session σ) : (bundle.release s).1.Held (bundle.release s).2 := by
  unfold release
  split <;> exact held_empty _

variable [LawfulRegistry σ]

theorem allocateBuffers_keeps (sound : s.Sound) : Keeps s (allocateBuffers s).2 := by
  rcases he : allocateBuffers s with ⟨_ | b, t⟩
  · exact .of_eq (of_allocateBuffers_error sound he).1
  · obtain ⟨held, -, -, hothers, -⟩ := of_allocateBuffers_ok sound he
    intro x hx
    by_cases fresh : x.id ∈ b.toList.map (·.id)
    · obtain ⟨y, hy, same⟩ := List.mem_map.mp fresh
      rw [t.room_congr same.symm]
      exact held.live y hy
    · rw [hothers x fresh]
      exact hx

theorem ensure_keeps (bundle : Bundle) (sound : s.Sound) : Keeps s (bundle.ensure s).session := by
  unfold ensure
  have hk := allocateBuffers_keeps sound
  split
  · exact .of_eq rfl
  · split <;> rename_i he
    · rw [he] at hk; exact hk
    · rw [he] at hk; exact hk

theorem grow_keeps (bundle : Bundle) (s : Session σ) (requested : Size) :
    Keeps s (bundle.grow s requested).session := by
  unfold grow
  split
  · exact .of_eq rfl
  · exact .of_eq rfl
  · rename_i size caps _
    split
    · exact .of_eq rfl
    · rename_i b _
      have hg := growBuffers_grows b s size caps
      split <;> rename_i he
      · rw [he] at hg; exact fun x => hg.isSome
      · rw [he] at hg; exact fun x => hg.isSome

theorem prepare_keeps (bundle : Bundle) (sound : s.Sound) (requested : Size) :
    Keeps s (bundle.prepare s requested).session := by
  unfold prepare
  split
  · exact .of_eq rfl
  · have hk := bundle.ensure_keeps sound
    dsimp only
    split
    · exact hk
    · refine hk.trans (Keeps.trans ?_ (grow_keeps _ _ _))
      exact .of_eq rfl

theorem Held.ensure (h : bundle.Held s) (sound : s.Sound) :
    (bundle.ensure s).bundle.Held (bundle.ensure s).session := by
  unfold Bundle.ensure
  split
  · exact h
  · rename_i hnone
    split <;> rename_i he
    · intro b hb
      rw [hnone] at hb; cases hb
    · intro b hb
      cases hb
      exact (of_allocateBuffers_ok sound he).1

theorem Held.prepare (h : bundle.Held s) (sound : s.Sound) (requested : Size) :
    (bundle.prepare s requested).bundle.Held (bundle.prepare s requested).session := by
  unfold Bundle.prepare
  split
  · exact h
  · have he := h.ensure sound
    dsimp only
    split
    · exact he
    · intro b hb
      rw [grow_buffers] at hb
      refine (he b hb).keeps (Keeps.trans ?_ (grow_keeps _ _ _))
      exact .of_eq rfl

end Bundle

end Transparency.Fragment
