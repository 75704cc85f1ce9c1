import Transparency.Proofs.Fragment.Current
import Transparency.Proofs.Fragment.Held

/-!
# Bundles on one device

Several bundles may keep their buffers on one device. What is done with one of them leaves the buffers of the
others as they are, and takes no number that is in use.
-/

namespace Transparency.Fragment
open Buffer (Handle)
open Device (Registry LawfulRegistry)
open Transparency.Frame (Session Event)
open Transparency.Frame.Session (Alike)

variable {σ : Type} [Registry σ] {s t u : Session σ} {b : Buffers} {bundle bundle' bundle'' : Bundle}
  {size : Size}

/-! ## Room for a screen -/

/-- The buffers of a bundle have room for the size that it records. -/
structure Bundle.Roomy (bundle : Bundle) (s : Session σ) : Prop where
  nonneg : bundle.size.isNegative = false
  buffers : ∀ b, bundle.buffers = some b → b.Roomy bundle.size s

/-- The numbers of the buffers of a bundle. -/
def Bundle.ids (bundle : Bundle) : List Nat := bundle.buffers.elim [] fun b => b.toList.map (·.id)

theorem Bundle.ids_of_some (hb : bundle.buffers = some b) : bundle.ids = b.toList.map (·.id) := by
  rw [ids, hb]
  rfl

theorem Bundle.ids_congr (h : bundle'.buffers = bundle.buffers) : bundle'.ids = bundle.ids := by
  rw [ids, h, ids]

theorem Bundle.roomy_empty (s : Session σ) : Bundle.Roomy {} s := ⟨rfl, fun _ hb => by cases hb⟩

theorem Bundle.Roomy.live_of_mem_ids (h : bundle.Roomy s) {i : Nat} (hi : i ∈ bundle.ids) :
    ∃ x : Handle, x.id = i ∧ (s.room x).isSome := by
  cases hb : bundle.buffers with
  | none => rw [ids, hb] at hi; cases hi
  | some b =>
      rw [ids_of_some hb] at hi
      obtain ⟨x, hx, rfl⟩ := List.mem_map.mp hi
      exact ⟨x, rfl, (h.buffers b hb).live x hx⟩

/-! ## Buffers that are left alone -/

/-- All buffers that are there but these have the room that they had, and were told nothing new. -/
def Spares (ids : List Nat) (s t : Session σ) : Prop :=
  ∀ x : Handle, (s.room x).isSome → x.id ∉ ids → t.room x = s.room x ∧ told x t.events = told x s.events

theorem Spares.refl (ids : List Nat) (s : Session σ) : Spares ids s s := fun _ _ _ => ⟨rfl, rfl⟩

theorem Spares.of_quiet {ids : List Nat} {new : List Event} (hr : t.room = s.room)
    (he : t.events = s.events ++ new) (quiet : ∀ e ∈ new, e.isStock = false) : Spares ids s t :=
  fun x _ _ => ⟨by rw [hr], by rw [he, told_of_quiet quiet]⟩

theorem Buffers.Roomy.spared {ids : List Nat} (h : b.Roomy size s) (hs : Spares ids s t)
    (apart : ∀ x ∈ b.toList, x.id ∉ ids) : b.Roomy size t := by
  have same {x : Handle} (hx : x ∈ b.toList) :
      t.room x = s.room x ∧ Fragment.told x t.events = Fragment.told x s.events :=
    hs x (h.live x hx) (apart x hx)
  refine { h.toHeldIn with live := fun x hx => ?_, counters := ?_, told := ?_ }
  · rw [(same hx).1]; exact h.live x hx
  · rw [(same b.counter_mem_toList).1]; exact h.counters
  · rw [(same (by simp [toList, entries])).2]; exact h.told

theorem Bundle.Roomy.spared {ids : List Nat} (h : bundle.Roomy s) (hs : Spares ids s t)
    (apart : List.Disjoint bundle.ids ids) : bundle.Roomy t := by
  refine ⟨h.nonneg, fun b hb => (h.buffers b hb).spared hs fun x hx => apart ?_⟩
  rw [ids_of_some hb]
  exact List.mem_map_of_mem hx

/-! ## What is done with one bundle -/

/-- One bundle comes from another one, and one session from another one, by calls that concern no other bundle:
the buffers of others are left alone, and no number is taken that is in use. -/
structure Minds (bundle : Bundle) (s : Session σ) (bundle' : Bundle) (t : Session σ) : Prop where
  spares : Spares bundle.ids s t
  fresh : ∀ x : Handle, x.id ∈ bundle'.ids → x.id ∉ bundle.ids → s.room x = none
  roomy : bundle.Roomy s → bundle'.Roomy t

namespace Minds

theorem of_quiet {new : List Event} (hr : t.room = s.room) (he : t.events = s.events ++ new)
    (quiet : ∀ e ∈ new, e.isStock = false) : Minds bundle s bundle t where
  spares := .of_quiet hr he quiet
  fresh _ old new := absurd old new
  roomy h := h.spared (.of_quiet hr he quiet) (List.disjoint_nil_right _)

theorem of_eq (hr : t.room = s.room) (he : t.events = s.events) : Minds bundle s bundle t :=
  of_quiet hr (by rw [he, List.append_nil]) (List.forall_mem_nil _)

theorem of_alike (ha : Alike s t) : Minds bundle s bundle t := of_eq ha.room ha.events

theorem trans (h : Minds bundle s bundle' t) (h' : Minds bundle' t bundle'' u) : Minds bundle s bundle'' u := by
  refine ⟨fun x live other => ?_, fun x used other => ?_, fun hr => h'.roomy (h.roomy hr)⟩
  · obtain ⟨hr, ht⟩ := h.spares x live other
    -- it is in use, so the first calls did not take its number
    have other' : x.id ∉ bundle'.ids := fun used => by
      rw [h.fresh x used other] at live
      cases live
    obtain ⟨hr', ht'⟩ := h'.spares x (by rw [hr]; exact live) other'
    exact ⟨hr'.trans hr, ht'.trans ht⟩
  · by_contra live
    by_cases used' : x.id ∈ bundle'.ids
    · exact live (h.fresh x used' other)
    · obtain ⟨hr, -⟩ := h.spares x (Option.isSome_iff_ne_none.mpr live) other
      exact live (hr ▸ h'.fresh x used used')

/-- A bundle stays apart from others, as no number of theirs is taken. -/
theorem apart {other : Bundle} (h : Minds bundle s bundle' t) (roomy : other.Roomy s)
    (apart : List.Disjoint other.ids bundle.ids) : List.Disjoint other.ids bundle'.ids := by
  intro i hi used
  obtain ⟨x, rfl, live⟩ := roomy.live_of_mem_ids hi
  rw [h.fresh x used (apart hi)] at live
  cases live

end Minds

section
variable [LawfulRegistry σ]

/-- A buffer that is there is none of those that are not. -/
theorem ne_of_live {x y : Handle} (live : (s.room x).isSome) (gone : s.room y = none) : y.id ≠ x.id := by
  intro same
  rw [← s.room_congr same, gone] at live
  cases live

theorem Bundle.minds_ensure (bundle : Bundle) (sound : s.Sound) :
    Minds bundle s (bundle.ensure s).bundle (bundle.ensure s).session := by
  unfold ensure
  split
  · exact .of_eq rfl rfl
  · split <;> rename_i he
    · rename_i t
      obtain ⟨hr, made, hevents, gone⟩ := of_allocateBuffers_error sound he
      have spares (ids : List Nat) : Spares ids s t := fun x live _ => by
        rw [← hr] at live
        exact ⟨by rw [hr], by
          rw [hevents, told_destroyed, told_allocated_other fun y hy => ne_of_live live (gone y hy)]⟩
      exact ⟨spares _, fun _ old new => absurd old new, fun h => h.spared (spares []) (by simp)⟩
    · rename_i b t
      obtain ⟨-, -, new, hothers, hevents⟩ := of_allocateBuffers_ok sound he
      have none_of_made {x : Handle} (hx : x.id ∈ b.toList.map (·.id)) : s.room x = none := by
        obtain ⟨y, hy, same⟩ := List.mem_map.mp hx
        rw [← s.room_congr same, new y hy]
      refine ⟨fun x live _ => ⟨hothers x fun made => ?_, ?_⟩, fun x used _ => none_of_made used,
        fun _ => ⟨rfl, fun b' hb' => ?_⟩⟩
      · rw [none_of_made made] at live
        cases live
      · rw [hevents, told_concat]
        exact told_allocated_other fun y hy => ne_of_live live (new y hy)
      · cases hb'
        exact Buffers.roomy_of_allocateBuffers sound he

theorem Bundle.growBuffers_spares (b : Buffers) (s : Session σ) (size : Size) (caps : Capacities) :
    Spares (b.toList.map (·.id)) s (growBuffers b s size caps).2 := by
  intro x _ other
  refine ⟨room_growBuffers_other b s size caps other, ?_⟩
  rcases he : growBuffers b s size caps with ⟨_ | _, t⟩
  · obtain ⟨done, hevents⟩ := of_growBuffers_error he
    rw [hevents, told_resized]
  · obtain ⟨-, -, done, hevents⟩ := of_growBuffers_ok he
    have uniforms : b.uniforms.id ≠ x.id := fun same =>
      other (List.mem_map.mpr ⟨b.uniforms, by simp [Buffers.toList, Buffers.entries], same⟩)
    rw [hevents, told_concat, tell, if_neg uniforms, told_resized]

theorem Bundle.Roomy.grow (h : bundle.Roomy s) (requested : Size) :
    (bundle.grow s requested).bundle.Roomy (bundle.grow s requested).session := by
  unfold Bundle.grow
  split
  · exact h
  · exact h
  · rename_i size caps hd
    obtain ⟨nonneg, nonempty, -, rfl⟩ := Decision.of_evaluate_grow h.nonneg hd
    split
    · exact h
    · rename_i b hb
      split <;> rename_i he
      · refine ⟨h.nonneg, fun b' hb' => ?_⟩
        cases hb.symm.trans hb'
        exact (h.buffers b hb).of_growBuffers_error he
      · refine ⟨nonneg, fun b' hb' => ?_⟩
        cases hb.symm.trans hb'
        exact ((h.buffers b hb).of_growBuffers_ok nonempty he).spared
          (fun _ _ _ => ⟨rfl, rfl⟩) fun _ _ => List.not_mem_nil

theorem Bundle.minds_grow (bundle : Bundle) (s : Session σ) (requested : Size) :
    Minds bundle s (bundle.grow s requested).bundle (bundle.grow s requested).session := by
  refine ⟨?_, fun x used other => ?_, fun h => h.grow requested⟩
  · unfold grow
    split
    · exact .refl _ s
    · exact .refl _ s
    · rename_i size caps _
      split
      · exact .refl _ s
      · rename_i b hb
        have hs := growBuffers_spares b s size caps
        rw [ids_of_some hb]
        split <;> rename_i he
        · rw [he] at hs; exact hs
        · rw [he] at hs; exact hs
  · rw [ids_congr (bundle.grow_buffers requested s)] at used
    exact absurd used other

theorem Bundle.minds_prepare (bundle : Bundle) (sound : s.Sound) (requested : Size) :
    Minds bundle s (bundle.prepare s requested).bundle (bundle.prepare s requested).session := by
  unfold prepare
  split
  · exact .of_eq rfl rfl
  · have made := bundle.minds_ensure sound
    dsimp only
    split
    · exact made
    · have published : Minds bundle s (bundle.ensure s).bundle (bundle.opened s) := made.trans (.of_eq rfl rfl)
      exact published.trans (minds_grow _ (bundle.opened s) requested)

theorem Bundle.minds_release (bundle : Bundle) (s : Session σ) :
    Minds bundle s (bundle.release s).1 (bundle.release s).2 := by
  unfold release
  split
  · exact ⟨.refl _ s, fun x used => (by cases used), fun _ => roomy_empty s⟩
  · rename_i b hb
    refine ⟨fun x _ other => ?_, fun x used => (by cases used), fun _ => roomy_empty _⟩
    rw [ids_of_some hb] at other
    constructor
    · show (s.destroyAll b.toList).room x = s.room x
      rw [Session.room_destroyAll, if_neg other]
    · show Fragment.told x (s.destroyAll b.toList).events = Fragment.told x s.events
      rw [Session.events_destroyAll, told_destroyed]

end

/-! ## A size that was granted -/

namespace Bundle
variable {requested : Size}

/-- Whatever a bundle grows for is covered, unless that fails. -/
theorem covers_of_grow {grew : Bool} (done : (bundle.grow s requested).result = .ok grew) :
    (bundle.grow s requested).bundle.size.covers requested = true := by
  unfold grow at done ⊢
  cases hd : Decision.evaluate requested bundle.size with
  | error e =>
      rw [hd] at done
      cases done
  | ok decision =>
      have covers := Decision.covers_of_evaluate hd
      cases decision with
      | unchanged => exact covers
      | grow size caps =>
          rw [hd] at done
          dsimp only at done ⊢
          split at done
          · cases done
          · split at done
            · cases done
            · exact covers

/-- Whatever a bundle is prepared for is covered by buffers that are there, unless that fails. -/
theorem covers_of_prepare (done : (bundle.prepare s requested).result = .ok ()) :
    ∃ b, (bundle.prepare s requested).bundle.buffers = some b ∧
      (bundle.prepare s requested).bundle.size.covers requested = true := by
  cases negative : requested.isNegative with
  | true =>
      rw [prepare, negative, if_pos rfl] at done
      cases done
  | false =>
      cases made : (bundle.ensure s).result with
      | error e =>
          rw [prepare, negative, if_neg Bool.false_ne_true] at done
          simp only [made] at done
          cases done
      | ok b =>
          obtain ⟨hb, -⟩ := prepare_published negative made (ensure_ok made)
          refine ⟨b, hb, ?_⟩
          rw [prepare_eq_grow negative made] at done ⊢
          cases grew : ((bundle.ensure s).bundle.grow (bundle.opened s) requested).result with
          | error e =>
              rw [grew] at done
              cases done
          | ok _ => exact covers_of_grow grew

end Bundle

end Transparency.Fragment
