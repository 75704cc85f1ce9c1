import Transparency.Proofs.Fragment.Again
import Transparency.Proofs.Scene.Deeds
import Transparency.Proofs.Task.Entries

/-!
# Preparing twice

A task that resolves may be prepared twice in a row. The second time changes nothing, whatever the first time came
to: it does not matter for how much of the frame it was done.
-/

namespace Transparency
open Device (Registry LawfulRegistry SteadyRegistry Recorder Limited)
open Fragment (Bundle)
open Transparency.Frame (Session Context Key)
open Transparency.Frame.Session (Alike Still)

variable {σ : Type}

namespace Task.Resolve
variable {same : σ → σ → Prop} {s : Session σ} {r : Resolve}

/-! ## A task that was prepared -/

/-- The task has taken over the targets of a context, and asked for a size since. -/
structure Settled (r : Resolve) (c : Context) : Prop where
  targets : r.targets = (c.targets?.getD []).map Target.kept
  requested : r.requestedSize = some r.wantedSize

theorem settleSize_of_settled (requested : r.requestedSize = some r.wantedSize) (s : Session σ) :
    r.settleSize s = (r, s) := by
  have quiet : r.startsFallback = false := by
    unfold startsFallback
    cases ht : r.targets with
    | nil => simp [requested, wantedSize, ht]
    | cons first rest => rfl
  simp only [settleSize, quiet, ← requested]
  rfl

section
variable [Registry σ]

theorem settled_prepareBuffers (r : Resolve) (s : Session σ) :
    (r.prepareBuffers s).1.Settled s.context := by
  simp only [prepareBuffers, settleSize]
  split <;> exact ⟨rfl, rfl⟩

/-- Getting the buffers of a settled task ready does no more than preparing its bundle. -/
theorem prepareBuffers_of_settled (settled : r.Settled s.context) :
    (r.prepareBuffers s).1 = { r with bundle := (r.bundle.prepare s r.wantedSize).bundle } ∧
    Alike (r.bundle.prepare s r.wantedSize).session (r.prepareBuffers s).2 := by
  have taken : { r with targets := (s.context.targets?.getD []).map Target.kept } = r := by
    rw [← settled.targets]
  simp only [prepareBuffers, taken, settleSize_of_settled settled.requested]
  refine ⟨trivial, ?_⟩
  split
  · exact .refl _
  · exact Session.alike_fail _ _ _

theorem ensurePass_of_built (built : r.pass.isSome) (s : Session σ) : r.ensurePass s = (.ok r, s) :=
  if_pos built

theorem wantedSize_prepareBuffers (r : Resolve) (s : Session σ) :
    (r.prepareBuffers s).1.wantedSize = r.sizeFor s.context := by
  simp only [prepareBuffers, settleSize]
  split <;> rfl

theorem targets?_prepare (r : Resolve) (s : Session σ) :
    (r.prepare s).2.context.targets? = s.context.targets? := by
  rw [Context.targets?, r.get?_prepare s (by decide) (by decide), Context.targets?]

theorem isNeeded_prepare (r : Resolve) (s : Session σ) :
    r.isNeeded (r.prepare s).2.context = r.isNeeded s.context := by
  rw [isNeeded, (r.hasFlag_prepare s).1, isNeeded]

omit [Registry σ] in
theorem unclear_of_uncleared (h : s.context.hasFlag .clearedFlag = false) : unclear s = s := by
  rw [unclear, Context.dropFlag, h, if_neg Bool.false_ne_true]
  rfl

theorem uncleared_prepare (h : r.isNeeded s.context = true) :
    (r.prepare s).2.context.hasFlag .clearedFlag = false := by
  rcases r.prepare_context_of_isNeeded s h with hc | ⟨b, -, hc⟩
  · rw [hc]; simp [unclear, Session.withContext]
  · rw [hc]; simp [unclear, Session.withContext, Key.fragmentBuffers]

/-- A task without its pass asks for it again, and does not get it. -/
theorem prepare_again_of_unbuilt {e : Error} (needed : r.isNeeded s.context = true)
    (he : r.ensurePass (unclear s) = (.error e, unclear s)) :
    (r.prepare s).1 = r ∧ ∃ t, r.prepare (r.prepare s).2 = (r, t) ∧ Alike (r.prepare s).2 t := by
  have first : r.prepare s = (r, (unclear s).fail r.name e) := by rw [r.prepare_eq s needed, he]
  have idle : Alike (unclear s) (r.prepare s).2 := first ▸ Session.alike_fail _ _ _
  have again : unclear (r.prepare s).2 = (r.prepare s).2 := unclear_of_uncleared (uncleared_prepare needed)
  refine ⟨by rw [first], ?_⟩
  rw [r.prepare_eq _ ((r.isNeeded_prepare s).trans needed), again]
  rcases (r.ensurePass_agree idle).cases with ⟨e', s', t, hs, ht, ha⟩ | ⟨r', s', t, hs, -, -⟩
  · rw [he] at hs
    cases hs
    rw [ht]
    exact ⟨_, rfl, (idle.symm.trans ha).trans (Session.alike_fail _ _ _)⟩
  · rw [he] at hs
    cases hs

variable [SteadyRegistry σ]

theorem prepareBuffers_again (refl : ∀ d, same d d) (retries : Bundle.Retries same) (sound : s.Sound)
    (r : Resolve) (targets : (r.prepareBuffers s).2.context.targets? = s.context.targets?) :
    ((r.prepareBuffers s).1.prepareBuffers (r.prepareBuffers s).2).1 = (r.prepareBuffers s).1 ∧
      Still same (r.prepareBuffers s).2 ((r.prepareBuffers s).1.prepareBuffers (r.prepareBuffers s).2).2 := by
  obtain ⟨u, hu, hb, -, -, halike⟩ := r.prepareBuffers_spec s
  have settled := r.settled_prepareBuffers s
  have wanted := r.wantedSize_prepareBuffers s
  generalize r.prepareBuffers s = once at *
  obtain ⟨hbundle, still⟩ := Bundle.prepare_again refl retries (hu.sound sound) r.bundle (r.sizeFor s.context)
  obtain ⟨-, hbundle', ha⟩ := once.1.bundle.prepare_agree halike (r.sizeFor s.context)
  obtain ⟨htask, hsession⟩ := prepareBuffers_of_settled (r := once.1) (s := once.2)
    ⟨by rw [targets]; exact settled.targets, settled.requested⟩
  rw [← hb] at hbundle still
  rw [wanted] at htask hsession
  exact ⟨by rw [htask, hbundle', hbundle], still.alike halike (ha.trans hsession)⟩

/-- However far a task got when it was prepared, nothing comes of preparing it again. -/
theorem prepare_again (refl : ∀ d, same d d) (retries : Bundle.Retries same) (sound : s.Sound) (r : Resolve) :
    ((r.prepare s).1.prepare (r.prepare s).2).1 = (r.prepare s).1 ∧
      Still same (r.prepare s).2 ((r.prepare s).1.prepare (r.prepare s).2).2 := by
  cases needed : r.isNeeded s.context with
  | false =>
      obtain ⟨hr, -⟩ := r.prepare_of_not_isNeeded s needed
      obtain ⟨hr', ha⟩ := r.prepare_of_not_isNeeded _ ((r.isNeeded_prepare s).trans needed)
      rw [hr]
      exact ⟨hr', ha.still refl⟩
  | true =>
      rcases r.ensurePass_cases (unclear s) with ⟨e, he⟩ | ⟨p, t, he, ha⟩
      · obtain ⟨hr, u, hu, ha⟩ := prepare_again_of_unbuilt needed he
        rw [hr, hu]
        exact ⟨rfl, ha.still refl⟩
      · have first : r.prepare s = { r with pass := some p }.prepareBuffers t := by
          rw [r.prepare_eq s needed, he]
        obtain ⟨-, -, -, hp, hs, -⟩ := prepareBuffers_spec { r with pass := some p } t
        have targets : (r.prepare s).2.context.targets? = t.context.targets? := by
          rw [r.targets?_prepare s, ha.context, unclear, Session.withContext, Context.targets?_dropFlag]
        have again :=
          prepareBuffers_again refl retries (ha.sound sound) { r with pass := some p } (first ▸ targets)
        rw [← first] at hp hs again
        -- the second time, the pass is built
        have needed' : (r.prepare s).1.isNeeded (r.prepare s).2.context = true := by
          rw [isNeeded, hs]
          exact (r.isNeeded_prepare s).trans needed
        rwa [prepare_eq _ _ needed', unclear_of_uncleared (uncleared_prepare needed),
          ensurePass_of_built (by rw [hp]; rfl)]

end

end Task.Resolve

namespace Scene

/-- Whatever was done with a device before, and whatever failed: a task that resolves may be prepared in any
context, and once more right after it. The task, its bundle, its pass, its targets and its warnings are then what
they were after the first time, and so are the context and the device, to which nothing was uploaded. A device
with limits gives out other numbers from then on at most. -/
theorem prepared_twice (r : Task.Resolve) (c : Context) (recipes : List Task.Recipe) (deeds : List Deed) :
    (∀ features refusing,
      let scene := deeds.foldl act (compose recipes { device := ({ features } : Recorder) })
      let s : Session Recorder := { context := c, device := { scene.session.device.device with refusing } }
      let once := r.prepare s
      let twice := once.1.prepare once.2
      twice.1 = once.1 ∧ Still (fun d d' => d = d') once.2 twice.2) ∧
    ∀ limits stageBuffers targets,
      let scene := deeds.foldl act
        (compose recipes { device := { Limited.ofLimits limits stageBuffers with targets } })
      let s : Session Limited := { context := c, device := scene.session.device.device }
      let once := r.prepare s
      let twice := once.1.prepare once.2
      twice.1 = once.1 ∧ Still Limited.Restores once.2 twice.2 := by
  constructor
  · intro features refusing scene s
    have new : LawfulRegistry.Sound ({ features } : Recorder) := fun id live => by cases live
    have sound : s.Sound := sound_of_deeds new recipes deeds
    exact Task.Resolve.prepare_again (fun _ => rfl) Bundle.retries_recorder sound r
  · intro limits stageBuffers targets scene s
    have new : LawfulRegistry.Sound { Limited.ofLimits limits stageBuffers with targets } := fun id live => by
      cases live
    have sound : s.Sound := sound_of_deeds new recipes deeds
    exact Task.Resolve.prepare_again Limited.Restores.refl Bundle.retries_limited sound r

end Scene

end Transparency
