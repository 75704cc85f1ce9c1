import Transparency.Proofs.Task.Turns

/-!
# The log is only written

Sessions that differ at most in what was logged stay so, whatever buffers are kept in them, and the results are
the same.
-/

namespace Transparency.Frame.Session
open Buffer (Role Kind Field UsageHint Handle Source)
open Device (Registry Reply)

variable {σ α : Type} {s t : Session σ}

theorem Alike.symm (h : Alike s t) : Alike t s := ⟨h.context.symm, h.device.symm, h.history.symm⟩

/-- Two results are the same, and the sessions after them differ at most in what was logged. -/
structure Agree (x y : α × Session σ) : Prop where
  same : y.1 = x.1
  alike : Alike x.2 y.2

theorem Agree.cases {x y : Except Error α × Session σ} (h : Agree x y) :
    (∃ e s t, x = (.error e, s) ∧ y = (.error e, t) ∧ Alike s t) ∨
      ∃ a s t, x = (.ok a, s) ∧ y = (.ok a, t) ∧ Alike s t := by
  obtain ⟨result, s⟩ := x
  obtain ⟨result', t⟩ := y
  obtain ⟨same, alike⟩ := h
  cases same
  cases result with
  | error e => exact Or.inl ⟨e, s, t, rfl, rfl, alike⟩
  | ok a => exact Or.inr ⟨a, s, t, rfl, rfl, alike⟩

theorem Alike.report (h : Alike s t) (level : LogLevel) (text text' : String) :
    Alike (s.report level text) (t.report level text') := ⟨h.context, h.device, h.history⟩

theorem Alike.absorb (h : Alike s t) (r : Reply σ α) (ev : α → Event) :
    Agree (s.absorb r ev) (t.absorb r ev) := by
  unfold Session.absorb
  split
  · exact ⟨rfl, h.context, rfl, h.history⟩
  · refine ⟨rfl, h.context, rfl, ?_⟩
    simp only [note, h.history]

variable [Registry σ]

theorem Alike.allocate (h : Alike s t) (role : Role) (fields : List Field) (kind : Kind)
    (hint : UsageHint) : Agree (s.allocate role fields kind hint) (t.allocate role fields kind hint) := by
  unfold Session.allocate
  rw [h.device]
  exact h.absorb _ _

theorem Alike.resize (h : Alike s t) (x : Handle) (n : Nat) : Agree (s.resize x n) (t.resize x n) := by
  unfold Session.resize
  rw [h.device]
  exact h.absorb _ _

theorem Alike.upload (h : Alike s t) (x : Handle) (source : Source) :
    Agree (s.upload x source) (t.upload x source) := by
  unfold Session.upload
  rw [h.device]
  exact h.absorb _ _

theorem Alike.destroy (h : Alike s t) (x : Handle) : Alike (s.destroy x) (t.destroy x) := by
  refine ⟨h.context, ?_, ?_⟩
  · simp only [Session.destroy, note, h.device]
  · simp only [Session.destroy, note, h.device, h.history]

theorem Alike.destroyAll (h : Alike s t) (xs : List Handle) :
    Alike (s.destroyAll xs) (t.destroyAll xs) := by
  induction xs generalizing s t with
  | nil => exact h
  | cons x xs ih => exact ih (h.destroy x)

theorem Alike.resizeAll (h : Alike s t) (rs : List (Handle × Nat)) :
    Agree (s.resizeAll rs) (t.resizeAll rs) := by
  induction rs generalizing s t with
  | nil => exact ⟨rfl, h⟩
  | cons r rs ih =>
      simp only [Session.resizeAll]
      rcases (h.resize r.1 r.2).cases with ⟨e, s', t', hs, ht, ha⟩ | ⟨_, s', t', hs, ht, ha⟩
      · rw [hs, ht]; exact ⟨rfl, ha⟩
      · rw [hs, ht]; exact ih ha

end Transparency.Frame.Session

namespace Transparency.Fragment
open Buffer (Handle)
open Device (Registry)
open Transparency.Frame (Session)
open Transparency.Frame.Session (Alike Agree)

variable {σ α : Type} [Registry σ] {s t : Session σ}

theorem allocateAll_agree (h : Alike s t) (plans : List BufferPlan) (made : List Handle) :
    Agree (allocateAll made s plans) (allocateAll made t plans) := by
  induction plans generalizing s t made with
  | nil => exact ⟨rfl, h⟩
  | cons plan plans ih =>
      simp only [allocateAll]
      rcases (h.allocate plan.role [⟨plan.field, plan.element⟩] plan.kind plan.hint).cases with
        ⟨e, s', t', hs, ht, ha⟩ | ⟨x, s', t', hs, ht, ha⟩
      · rw [hs, ht]; exact ⟨rfl, ha.destroyAll made⟩
      · rw [hs, ht]; exact ih ha _

theorem allocateBuffers_agree (h : Alike s t) : Agree (allocateBuffers s) (allocateBuffers t) := by
  unfold allocateBuffers
  rcases (allocateAll_agree h bufferPlans []).cases with ⟨e, s', t', hs, ht, ha⟩ |
    ⟨made, s', t', hs, ht, ha⟩
  · rw [hs, ht]; exact ⟨rfl, ha⟩
  · rw [hs, ht]
    dsimp only
    split
    · exact ⟨rfl, ha⟩
    · rename_i buffers _
      rcases (ha.resize buffers.counter Capacities.empty.counter).cases with ⟨e, u, v, hu, hv, hr⟩ |
        ⟨_, u, v, hu, hv, hr⟩
      · rw [hu, hv]; exact ⟨rfl, hr.destroyAll made⟩
      · rw [hu, hv]; exact ⟨rfl, hr.report _ _ _⟩

/-- Two outcomes are the same, except for what was logged. -/
structure Outcome.Agree (x y : Outcome σ α) : Prop where
  result : y.result = x.result
  bundle : y.bundle = x.bundle
  alike : Alike x.session y.session

namespace Bundle
variable (bundle : Bundle)

theorem ensure_agree (h : Alike s t) : Outcome.Agree (bundle.ensure s) (bundle.ensure t) := by
  unfold ensure
  split
  · exact ⟨rfl, rfl, h⟩
  · rcases (allocateBuffers_agree h).cases with ⟨e, s', t', hs, ht, ha⟩ | ⟨_, s', t', hs, ht, ha⟩
    · rw [hs, ht]; exact ⟨rfl, rfl, ha⟩
    · rw [hs, ht]; exact ⟨rfl, rfl, ha⟩

theorem growBuffers_agree (h : Alike s t) (buffers : Buffers) (size : Size) (capacities : Capacities) :
    Agree (growBuffers buffers s size capacities) (growBuffers buffers t size capacities) := by
  unfold growBuffers
  rcases (h.resizeAll [(buffers.data, capacities.fragments), (buffers.indices, capacities.fragments),
      (buffers.depth, capacities.fragments), (buffers.counter, capacities.counter)]).cases with
    ⟨e, s', t', hs, ht, ha⟩ | ⟨_, s', t', hs, ht, ha⟩
  · rw [hs, ht]; exact ⟨rfl, ha⟩
  · rw [hs, ht]; exact ha.upload _ _

theorem grow_agree (h : Alike s t) (requested : Size) :
    Outcome.Agree (bundle.grow s requested) (bundle.grow t requested) := by
  unfold grow
  split
  · exact ⟨rfl, rfl, h⟩
  · exact ⟨rfl, rfl, h⟩
  · rename_i size capacities _
    split
    · exact ⟨rfl, rfl, h⟩
    · rename_i buffers _
      rcases (growBuffers_agree h buffers size capacities).cases with ⟨e, s', t', hs, ht, ha⟩ |
        ⟨_, s', t', hs, ht, ha⟩
      · rw [hs, ht]; exact ⟨rfl, rfl, ha⟩
      · rw [hs, ht]; exact ⟨rfl, rfl, ha.report _ _ _⟩

theorem prepare_agree (h : Alike s t) (requested : Size) :
    Outcome.Agree (bundle.prepare s requested) (bundle.prepare t requested) := by
  unfold prepare
  split
  · exact ⟨rfl, rfl, h⟩
  · obtain ⟨hr, hb, ha⟩ := bundle.ensure_agree h
    dsimp only
    rw [hr, hb, ha.context]
    split
    · exact ⟨rfl, rfl, ha⟩
    · obtain ⟨hr, hb, ha⟩ := (bundle.ensure s).bundle.grow_agree
        (ha.withContext ((bundle.ensure s).bundle.publish (bundle.ensure s).session.context)) requested
      exact ⟨congrArg (Except.map fun _ => ()) hr, hb, ha⟩

end Bundle

end Transparency.Fragment

namespace Transparency.Task.Resolve
open Device (Registry)
open Transparency.Frame (Session)
open Transparency.Frame.Session (Alike Agree)

variable {σ : Type} {s t : Session σ} (r : Resolve)

theorem settleSize_agree (h : Alike s t) : Agree (r.settleSize s) (r.settleSize t) := by
  unfold settleSize
  split
  · exact ⟨rfl, h.report _ _ _⟩
  · exact ⟨rfl, h⟩

variable [Registry σ]

theorem ensurePass_agree (h : Alike s t) : Agree (r.ensurePass s) (r.ensurePass t) := by
  unfold ensurePass
  rw [h.device]
  split
  · exact ⟨rfl, h⟩
  · split
    · exact ⟨rfl, h⟩
    · split
      · exact ⟨rfl, h⟩
      · exact ⟨rfl, h.report _ _ _⟩

theorem prepareBuffers_agree (h : Alike s t) : Agree (r.prepareBuffers s) (r.prepareBuffers t) := by
  unfold prepareBuffers
  rw [h.context]
  obtain ⟨hr, ha⟩ := settleSize_agree
    { r with targets := (s.context.targets?.getD []).map Target.kept } h
  dsimp only
  rw [hr]
  generalize Resolve.settleSize _ s = x at ha ⊢
  obtain ⟨hr, hb, hs⟩ := x.1.bundle.prepare_agree ha x.1.wantedSize
  rw [hr, hb]
  refine ⟨rfl, ?_⟩
  dsimp only
  split
  · exact hs
  · exact hs.report _ _ _

theorem prepare_agree (h : Alike s t) : Agree (r.prepare s) (r.prepare t) := by
  unfold prepare
  rw [h.context]
  split
  · exact ⟨rfl, h.report _ _ _⟩
  · dsimp only
    rcases (r.ensurePass_agree (h.withContext (s.context.dropFlag .clearedFlag))).cases with
      ⟨e, s', t', hs, ht, ha⟩ | ⟨r', s', t', hs, ht, ha⟩
    · rw [hs, ht]; exact ⟨rfl, ha.report _ _ _⟩
    · rw [hs, ht]; exact r'.prepareBuffers_agree ha

end Transparency.Task.Resolve
