import Transparency.Proofs.Fragment.Held
import Transparency.Proofs.Frame.Quiet

/-!
# Buffers and the roles of their handles

The device keeps a role with each buffer. Behind the handles of a bundle stand buffers with the roles of the
handles, from when they are made until they are given back.
-/

namespace Transparency.Device.Recorder
open Buffer (Role Kind Field Handle)

/-- The number of the handle was given out, and the buffer behind it, if there is one, has its role. -/
structure Labels (x : Handle) (d : Recorder) : Prop where
  issued : x.id < d.nextId
  role : ∀ b, d.buffer? x = some b → b.role = x.role

namespace Labels
variable {x : Handle} {d : Recorder}

theorem update (h : Labels x d) {y : Handle} {b b' : RecordedBuffer} (known : d.buffer? y = some b)
    (same : b'.role = b.role) (o : Operation) : Labels x (d.update y b' o) where
  issued := h.issued
  role held found := by
    simp only [buffer?, Recorder.update, Table.get?_insert] at found
    split at found
    · rename_i own
      cases found
      rw [same]
      exact h.role b (by rw [buffer?, own]; exact known)
    · exact h.role held found

end Labels

theorem registryKeeps_labels (x : Handle) : RegistryKeeps (Labels x) where
  allocate d role fields kind _ h := by
    simp only [Registry.allocate, Recorder.allocate]
    split
    · exact h
    · -- the number of a new buffer was not given out before
      have other : x.id ≠ d.nextId := Nat.ne_of_lt h.issued
      refine ⟨Nat.lt_succ_of_lt h.issued, fun b found => h.role b ?_⟩
      simpa [buffer?, Recorder.update, issue, other] using found
  resize d y n h := by
    simp only [Registry.resize, Recorder.resize]
    split
    · exact h
    · rename_i b known
      split
      · exact h
      · exact h.update known (by rfl) _
  upload d y s h := by
    simp only [Registry.upload, Recorder.upload]
    split
    · exact h
    · rename_i b known
      exact h.update known (by rfl) _
  destroy d y h := by
    simp only [Registry.destroy, Recorder.destroy]
    split
    · exact h
    · refine ⟨h.issued, fun b found => h.role b ?_⟩
      simp only [buffer?, Table.get?_erase] at found
      split at found
      · cases found
      · exact found

theorem commandsKeep_labels (x : Handle) : CommandsKeep (Labels x) where
  fill d y v h := by
    simp only [CommandSink.fill, Recorder.fill]
    split
    · exact h
    · rename_i b known
      exact h.update known (by rfl) _
  draw d c h := by
    simp only [CommandSink.draw, Recorder.draw]
    split
    · exact h
    · exact ⟨h.issued, h.role⟩

theorem labels_allocate {d : Recorder} {role : Role} {fields : List Field} {kind : Kind} {x : Handle}
    (made : (d.allocate role fields kind).result = .ok x) : Labels x (d.allocate role fields kind).device := by
  unfold Recorder.allocate at made ⊢
  split at made
  · cases made
  · rename_i willing
    cases made
    rw [if_neg willing]
    refine ⟨Nat.lt_succ_self _, fun b found => ?_⟩
    obtain rfl := Option.some.inj ((buffer?_update_self _ _ _ _).symm.trans found)
    rfl

end Transparency.Device.Recorder

namespace Transparency.Fragment
open Device (Registry Recorder Faulty)
open Transparency.Frame (Session)

variable {s t : Session (Faulty Recorder)} {b : Buffers} {bundle : Bundle}

/-- The buffers behind the handles have the roles of the handles. -/
def Buffers.Labelled (b : Buffers) (s : Session (Faulty Recorder)) : Prop :=
  ∀ x ∈ b.toList, s.device.device.Labels x

theorem Buffers.Labelled.stocks (h : b.Labelled s) (stocks : Session.Stocks s t) : b.Labelled t := fun x hx =>
  stocks.device (Faulty.registryKeeps (Recorder.registryKeeps_labels x)) (h x hx)

theorem Buffers.Labelled.performs (h : b.Labelled s) (performs : Session.Performs s t) : b.Labelled t := fun x hx =>
  performs.device (Faulty.commandsKeep (Recorder.commandsKeep_labels x)) (h x hx)

theorem Buffers.Labelled.congr (h : b.Labelled s) (same : t.device = s.device) : b.Labelled t := by
  rw [Buffers.Labelled, same]
  exact h

theorem labelled_of_allocateBuffers (sound : s.Sound) (he : allocateBuffers s = (.ok b, t)) : b.Labelled t := by
  obtain ⟨u, v, hc, hr, ha⟩ := allocateBuffers_eq_ok he
  obtain ⟨-, fresh, hall, hmade⟩ := forall₂_of_allocateAll
    (Q := fun _ x (d : Faulty Recorder) => d.device.Labels x)
    (fun _ hr => by
      obtain ⟨made, hd⟩ := Faulty.of_attempt_ok hr
      rw [show (Registry.allocate _ _ _ _ _ : Device.Reply (Faulty Recorder) _).device.device = _ from hd]
      exact Recorder.labels_allocate made)
    (fun _ hq _ => (Faulty.registryKeeps (Recorder.registryKeeps_labels _)).allocate _ _ _ _ _ hq) sound hc
  rw [List.nil_append] at hall
  have made : b.Labelled u := by
    rw [Buffers.Labelled, hall]
    exact forall_of_forall₂ hmade
  have hv := (Session.Stocks.refl u).resize b.counter Capacities.empty.counter
  rw [hr] at hv
  exact made.stocks (.alike ha hv)

/-- The buffers of a bundle have the roles of their handles. -/
def Bundle.Labelled (bundle : Bundle) (s : Session (Faulty Recorder)) : Prop :=
  ∀ b, bundle.buffers = some b → b.Labelled s

namespace Bundle

theorem labelled_empty (s : Session (Faulty Recorder)) : Labelled {} s := fun _ h => by cases h

theorem Labelled.stocks (h : bundle.Labelled s) (stocks : Session.Stocks s t) : bundle.Labelled t :=
  fun b hb => (h b hb).stocks stocks

theorem Labelled.congr (h : bundle.Labelled s) (same : t.device = s.device) : bundle.Labelled t :=
  fun b hb => (h b hb).congr same

theorem labelled_release (bundle : Bundle) (s : Session (Faulty Recorder)) :
    (bundle.release s).1.Labelled (bundle.release s).2 := by
  unfold release
  split <;> exact labelled_empty _

theorem Labelled.ensure (h : bundle.Labelled s) (sound : s.Sound) :
    (bundle.ensure s).bundle.Labelled (bundle.ensure s).session := by
  unfold Bundle.ensure
  split
  · exact h
  · rename_i hnone
    split <;> rename_i he
    · intro b hb
      rw [hnone] at hb
      cases hb
    · intro b hb
      cases hb
      exact labelled_of_allocateBuffers sound he

theorem Labelled.prepare (h : bundle.Labelled s) (sound : s.Sound) (requested : Size) :
    (bundle.prepare s requested).bundle.Labelled (bundle.prepare s requested).session := by
  unfold Bundle.prepare
  split
  · exact h
  · have he := h.ensure sound
    dsimp only
    split
    · exact he
    · intro b hb
      rw [grow_buffers] at hb
      exact (he b hb).stocks (((Session.Stocks.refl _).withContext _).trans (grow_stocks _ _ _))

end Bundle

end Transparency.Fragment
