import Transparency.Proofs.Frame.Warnings
import Transparency.Proofs.Task.Served

/-!
# Switching into the fallback resolution

A task that resolves warns when it falls back to the size of its settings, other than the last time that it asked
for a size. Of its past it remembers that size and that its pass was built, and nothing else decides which of its
turns are counted.
-/

namespace Transparency.Task.Resolve
open Device (Registry CommandSink CalmRegistry CalmSink)
open Transparency.Frame (Session Context)

/-! ## Calls on a task -/

/-- A call on the task, with all that it acts on. Every call may come with another context and another device, of
another kind. -/
inductive Call : Type 1
  | prepare {σ : Type} [Registry σ] (session : Session σ)
  | execute {σ : Type} [CommandSink σ] (session : Session σ)
  | release {σ : Type} [Registry σ] (session : Session σ)

/-- Whether the context binds no target: there is no entry, an empty one, or one of another type. -/
def bindsNone (c : Context) : Bool :=
  match c.get? .targets with
  | some (.targets (_ :: _)) => false
  | _ => true

/-- The size that is derived from a context: that of the first target, or the fallback square. -/
def derivedSize (settings : Settings) (c : Context) : Size :=
  match c.get? .targets with
  | some (.targets (first :: _)) => targetSize first
  | _ => .square settings.fallbackSize

namespace Call

/-- The task after the call. -/
def act (r : Resolve) : Call → Resolve
  | prepare s => (r.prepare s).1
  | execute _ => r
  | release s => (r.release s).1

/-- Whether the call gives the buffers back. -/
def isRelease : Call → Bool
  | release _ => true
  | _ => false

/-- The context of an effective call: it prepares a task that is switched on, somebody asked for the buffers, and
the pass is built or can be. -/
def effective? (r : Resolve) : Call → Option Context
  | prepare s =>
    if r.settings.enabled && s.context.hasFlag .requestFlag &&
        (r.pass.isSome || (Registry.features s.device).fragmentStorage) then some s.context
    else none
  | _ => none

/-- The device logs no warning of its own. -/
def Calm : Call → Prop
  | @prepare σ _ _ => CalmRegistry σ
  | @execute σ _ _ => CalmSink σ
  | release _ => True

/-- The warnings that were logged before the call. -/
def warningsBefore : Call → List LogLine
  | prepare s => s.warnings
  | execute s => s.warnings
  | release s => s.warnings

/-- The warnings that were logged once the call is over. -/
def warningsAfter (r : Resolve) : Call → List LogLine
  | prepare s => (r.prepare s).2.warnings
  | execute s => (r.execute s).warnings
  | release s => (r.release s).2.warnings

/-- Two calls ask for the same, of devices that can do the same. What comes of it may differ. -/
def SameDemand : Call → Call → Prop
  | prepare s, prepare t => t.context.hasFlag .requestFlag = s.context.hasFlag .requestFlag ∧
      t.context.get? .targets = s.context.get? .targets ∧
      (Registry.features t.device).fragmentStorage = (Registry.features s.device).fragmentStorage
  | execute _, execute _ => True
  | release _, release _ => True
  | _, _ => False

end Call

/-- The task after calls, of which the last one comes first. -/
def after (r : Resolve) : List Call → Resolve
  | [] => r
  | call :: earlier => call.act (r.after earlier)

/-- The size that was derived by the last effective call, if there was one since the last release. The last call
comes first. -/
def lastSize (r : Resolve) : List Call → Option Size
  | [] => none
  | call :: earlier =>
    if call.isRelease then none
    else ((call.effective? (r.after earlier)).map (derivedSize r.settings)).or (r.lastSize earlier)

/-- Whether the last call, which comes first, is counted: it is effective and finds no target, and the effective
call before it, if there was one since the last release, derived another size than the fallback square. -/
def switches (r : Resolve) : List Call → Bool
  | [] => false
  | call :: earlier => (call.effective? (r.after earlier)).any fun c =>
      bindsNone c && r.lastSize earlier ≠ some (.square r.settings.fallbackSize)

/-! ## What the task remembers -/

/-- All that the turns of a task leave in it, but for its buffers and its targets. -/
structure Memory where
  name : String
  settings : Settings
  built : Bool
  size : Option Size
  warnings : Nat

/-- What a task remembers. -/
def memory (r : Resolve) : Memory where
  name := r.name
  settings := r.settings
  built := r.pass.isSome
  size := r.requestedSize
  warnings := r.fallbackWarnings

/-- Whether the task falls back in a context, other than last time. -/
def fallsBack (r : Resolve) (c : Context) : Bool := bindsNone c && r.requestedSize ≠ some r.fallbackSize

variable {σ : Type} (r : Resolve)

theorem sizeFor_eq (c : Context) : r.sizeFor c = derivedSize r.settings c := by
  unfold sizeFor derivedSize Context.targets?
  rcases c.get? .targets with _ | _ | _ | _ | ⟨first, rest⟩ <;> rfl

theorem startsFallback_eq (c : Context) :
    startsFallback { r with targets := (c.targets?.getD []).map Target.kept } = r.fallsBack c := by
  have none : ((c.targets?.getD []).map Target.kept).isEmpty = bindsNone c := by
    unfold bindsNone Context.targets?
    rcases c.get? .targets with _ | _ | _ | _ | ⟨first, rest⟩ <;> rfl
  rw [startsFallback, none]
  rfl

section
variable [Registry σ] (s : Session σ)

/-- The pass is built or can be, or the task is left as it is. -/
theorem ensurePass_of_supported
    (supported : (r.pass.isSome || (Registry.features s.device).fragmentStorage) = true) :
    ∃ p t, r.ensurePass s = (.ok { r with pass := some p }, t) ∧ Session.Alike s t ∧ t.warnings = s.warnings := by
  unfold ensurePass
  split
  · rename_i built
    obtain ⟨p, hp⟩ := Option.isSome_iff_exists.mp built
    exact ⟨p, s, by rw [← hp], .refl s, rfl⟩
  · rename_i unbuilt
    obtain ⟨program, hp⟩ := Shader.resolveProgram_ok
    have able : (Registry.features s.device).fragmentStorage = true := by simpa [unbuilt] using supported
    simp only [able, hp]
    exact ⟨_, _, rfl, Session.alike_report _ _ _, s.warnings_report .debug _ nofun⟩

theorem ensurePass_of_unsupported
    (unsupported : (r.pass.isSome || (Registry.features s.device).fragmentStorage) = false) :
    ∃ e, r.ensurePass s = (.error e, s) := by
  obtain ⟨unbuilt, unable⟩ := Bool.or_eq_false_iff.mp unsupported
  exact ⟨_, by rw [ensurePass, unbuilt, unable]; rfl⟩

theorem memory_prepareBuffers : (r.prepareBuffers s).1.memory =
    { r.memory with
      size := some (derivedSize r.settings s.context)
      warnings := r.fallbackWarnings + (r.fallsBack s.context).toNat } := by
  have hw : wantedSize { r with targets := (s.context.targets?.getD []).map Target.kept } =
      derivedSize r.settings s.context := r.sizeFor_eq s.context
  simp only [prepareBuffers, settleSize, r.startsFallback_eq, hw]
  split <;> rename_i falls
  · rw [falls]; rfl
  · rw [Bool.eq_false_iff.mpr falls]; rfl

theorem warnings_prepareBuffers [CalmRegistry σ] : (r.prepareBuffers s).2.warnings =
    s.warnings ++ if r.fallsBack s.context then [⟨.warn, r.fallbackText⟩] else [] := by
  have settled : (settleSize { r with targets := (s.context.targets?.getD []).map Target.kept } s).2.warnings =
      s.warnings ++ if r.fallsBack s.context then [⟨.warn, r.fallbackText⟩] else [] := by
    rw [settleSize, r.startsFallback_eq]
    split
    · exact s.warnings_warn _
    · exact (List.append_nil _).symm
  rw [← settled]
  simp only [prepareBuffers]
  split
  · exact Fragment.Bundle.warnings_prepare _ _ _
  · exact (Session.warnings_fail _ _ _).trans (Fragment.Bundle.warnings_prepare _ _ _)

end

theorem warnings_drawPass [CommandSink σ] [CalmSink σ] (s : Session σ) : (r.drawPass s).warnings = s.warnings := by
  unfold drawPass
  split
  · exact s.warnings_fail _ _
  · rename_i pass _
    split
    · exact s.warnings_fail _ _
    · rename_i b _
      have hd := s.warnings_draw (r.resolveDraw pass b)
      dsimp only
      split <;> rename_i he <;> rw [he] at hd
      · exact (Session.warnings_fail _ _ _).trans hd
      · exact hd

/-! ## One call -/

namespace Call
variable {r}

theorem effective?_prepare [Registry σ] {s : Session σ} {c : Context} (h : (prepare s).effective? r = some c) :
    r.isNeeded s.context = true ∧ (r.pass.isSome || (Registry.features s.device).fragmentStorage) = true ∧
      s.context = c := by
  simp only [effective?, Option.ite_none_right_eq_some, Bool.and_eq_true, Option.some.injEq] at h
  obtain ⟨⟨⟨enabled, requested⟩, supported⟩, same⟩ := h
  exact ⟨by rw [isNeeded, enabled, requested]; rfl, supported, same⟩

/-- An effective call settles the size; the warnings are what they were, or one more. -/
theorem of_effective (call : Call) {c : Context} (h : call.effective? r = some c) :
    (call.act r).memory = { r.memory with
      built := true
      size := some (derivedSize r.settings c)
      warnings := r.fallbackWarnings + (r.fallsBack c).toNat } ∧
    (call.Calm → call.warningsAfter r =
      call.warningsBefore ++ if r.fallsBack c then [⟨.warn, r.fallbackText⟩] else []) := by
  cases call with
  | prepare s =>
      obtain ⟨needed, supported, rfl⟩ := effective?_prepare h
      obtain ⟨p, t, he, ha, hw⟩ := r.ensurePass_of_supported (unclear s) supported
      have entry : t.context.get? .targets = s.context.get? .targets := by
        rw [ha.context]
        exact s.context.get?_dropFlag_of_ne nofun
      have size : derivedSize r.settings t.context = derivedSize r.settings s.context := by
        rw [derivedSize, entry, derivedSize]
      have falls : fallsBack { r with pass := some p } t.context = r.fallsBack s.context := by
        simp only [fallsBack, bindsNone, entry]
        rfl
      simp only [act, warningsAfter, r.prepare_eq s needed, he]
      refine ⟨?_, fun calm => ?_⟩
      · rw [memory_prepareBuffers, size, falls]; rfl
      · have : CalmRegistry _ := calm
        rw [warnings_prepareBuffers, hw, falls]
        rfl
  | execute s => cases h
  | release s => cases h

/-- A call that is not effective, and gives nothing back, leaves the task as it is. -/
theorem of_ineffective (call : Call) (h : call.effective? r = none) (kept : call.isRelease = false) :
    call.act r = r ∧ (call.Calm → call.warningsAfter r = call.warningsBefore) := by
  cases call with
  | prepare s =>
      cases needed : r.isNeeded s.context with
      | false =>
          have idle : r.prepare s = (r, s.report .trace (r.name ++ ": no OIT requested this frame")) := by
            rw [Resolve.prepare, needed]
            rfl
          exact ⟨congrArg (·.1) idle, fun _ =>
            (congrArg (·.2.warnings) idle).trans (s.warnings_report .trace _ (by decide))⟩
      | true =>
          obtain ⟨enabled, requested⟩ := Bool.and_eq_true_iff.mp needed
          have unsupported : (r.pass.isSome || (Registry.features s.device).fragmentStorage) = false := by
            simpa [effective?, enabled, requested] using h
          obtain ⟨e, he⟩ := r.ensurePass_of_unsupported (unclear s) unsupported
          have failed : r.prepare s = (r, (unclear s).fail r.name e) := by rw [r.prepare_eq s needed, he]
          exact ⟨congrArg (·.1) failed, fun _ =>
            (congrArg (·.2.warnings) failed).trans (Session.warnings_fail _ _ _)⟩
  | execute s =>
      refine ⟨rfl, fun calm => ?_⟩
      have : CalmSink _ := calm
      simp only [warningsAfter, warningsBefore]
      cases requested : s.context.hasFlag .requestFlag with
      | false => rw [Resolve.execute, requested]; exact s.warnings_report .trace _ (by decide)
      | true =>
          rw [r.execute_of_requested s requested]
          split
          · exact r.warnings_drawPass _
          · rfl
  | release s => cases kept

/-- Giving the buffers back, the task forgets the size. -/
theorem of_release (call : Call) (given : call.isRelease = true) :
    (call.act r).memory = { r.memory with size := none } ∧ call.effective? r = none ∧
    call.warningsAfter r = call.warningsBefore := by
  cases call with
  | release s => exact ⟨rfl, rfl, r.bundle.warnings_release s⟩
  | _ => cases given

/-! ## What decides -/

variable {r' : Resolve} {call call' : Call}

theorem SameDemand.refl : (call : Call) → call.SameDemand call
  | prepare _ => ⟨rfl, rfl, rfl⟩
  | execute _ => trivial
  | release _ => trivial

theorem SameDemand.isRelease (h : call.SameDemand call') : call'.isRelease = call.isRelease := by
  cases call <;> cases call' <;> first | rfl | cases h

/-- The entry that an effective call finds is decided by what is asked for and what is remembered. -/
theorem SameDemand.effective? (h : call.SameDemand call') (same : r'.memory = r.memory) :
    (call'.effective? r').map (·.get? .targets) = (call.effective? r).map (·.get? .targets) := by
  cases call <;> cases call' <;> first | rfl | (cases h; done) | skip
  obtain ⟨requested, entry, able⟩ := h
  have enabled : r'.settings.enabled = r.settings.enabled := congrArg (·.settings.enabled) same
  have built : r'.pass.isSome = r.pass.isSome := congrArg Memory.built same
  simp only [Call.effective?, requested, able, enabled, built]
  split
  · simp only [Option.map_some, entry]
  · rfl

theorem SameDemand.cases (h : call.SameDemand call') (same : r'.memory = r.memory) :
    (call.effective? r = none ∧ call'.effective? r' = none) ∨
      ∃ c c', call.effective? r = some c ∧ call'.effective? r' = some c' ∧ c'.get? .targets = c.get? .targets := by
  have entries := h.effective? same
  cases hc : call.effective? r <;> cases hc' : call'.effective? r' <;> rw [hc, hc'] at entries
  · exact Or.inl ⟨rfl, rfl⟩
  · cases entries
  · cases entries
  · exact Or.inr ⟨_, _, rfl, rfl, Option.some.inj entries⟩

theorem fallsBack_congr {c c' : Context} (same : r'.memory = r.memory)
    (entry : c'.get? .targets = c.get? .targets) : r'.fallsBack c' = r.fallsBack c := by
  have size : r'.requestedSize = r.requestedSize := congrArg Memory.size same
  have fallback : r'.fallbackSize = r.fallbackSize := congrArg (fun m : Memory => Size.square m.settings.fallbackSize) same
  rw [fallsBack, bindsNone, entry, size, fallback]
  rfl

theorem SameDemand.fallsBack (h : call.SameDemand call') (same : r'.memory = r.memory) :
    (call'.effective? r').any r'.fallsBack = (call.effective? r).any r.fallsBack := by
  rcases h.cases same with ⟨hc, hc'⟩ | ⟨c, c', hc, hc', entry⟩ <;> rw [hc, hc']
  · rfl
  · exact fallsBack_congr same entry

/-- Tasks that remember the same do so after calls that ask for the same. -/
theorem SameDemand.act (h : call.SameDemand call') (same : r'.memory = r.memory) :
    (call'.act r').memory = (call.act r).memory := by
  cases given : call.isRelease with
  | true => rw [(call'.of_release (h.isRelease.trans given)).1, (call.of_release given).1, same]
  | false =>
      rcases h.cases same with ⟨hc, hc'⟩ | ⟨c, c', hc, hc', entry⟩
      · rw [(call'.of_ineffective hc' (h.isRelease.trans given)).1, (call.of_ineffective hc given).1, same]
      · have size : derivedSize r'.settings c' = derivedSize r.settings c := by
          rw [derivedSize, entry, show r'.settings = r.settings from congrArg Memory.settings same, derivedSize]
        have count : r'.fallbackWarnings = r.fallbackWarnings := congrArg Memory.warnings same
        rw [(call'.of_effective hc').1, (call.of_effective hc).1, same, size, count, fallsBack_congr same entry]

end Call

/-! ## All calls -/

section
variable {r} (fresh : r.requestedSize = none)
include fresh

/-- The size that a new task remembers is the last one that was derived. -/
theorem memory_after (calls : List Call) : (r.after calls).name = r.name ∧
    (r.after calls).settings = r.settings ∧ (r.after calls).requestedSize = r.lastSize calls := by
  induction calls with
  | nil => exact ⟨rfl, rfl, fresh⟩
  | cons call earlier ih =>
      obtain ⟨name, settings, size⟩ := ih
      have memory : ∀ m, (call.act (r.after earlier)).memory = m →
          (r.after (call :: earlier)).name = m.name ∧ (r.after (call :: earlier)).settings = m.settings ∧
          (r.after (call :: earlier)).requestedSize = m.size := by
        rintro m rfl
        exact ⟨rfl, rfl, rfl⟩
      rw [lastSize, ← name, ← settings]
      cases given : call.isRelease with
      | true => exact memory _ (call.of_release given).1
      | false =>
          cases hc : call.effective? (r.after earlier) with
          | none =>
              obtain ⟨hn, hs, hz⟩ := memory _ (congrArg Resolve.memory (call.of_ineffective hc given).1)
              exact ⟨hn, hs, hz.trans size⟩
          | some c => exact memory _ (call.of_effective hc).1

theorem switches_cons (call : Call) (earlier : List Call) : r.switches (call :: earlier) =
    (call.effective? (r.after earlier)).any (r.after earlier).fallsBack := by
  obtain ⟨-, settings, size⟩ := memory_after fresh earlier
  rw [switches]
  congr 1
  funext c
  rw [fallsBack, fallbackSize, settings, size]

theorem fallbackWarnings_after (zero : r.fallbackWarnings = 0) (calls : List Call) :
    (r.after calls).fallbackWarnings = calls.tails.countP r.switches := by
  induction calls with
  | nil => exact zero
  | cons call earlier ih =>
      rw [List.tails, List.countP_cons, ← ih, switches_cons fresh]
      have count : ∀ m, (call.act (r.after earlier)).memory = m →
          (r.after (call :: earlier)).fallbackWarnings = m.warnings := by
        rintro m rfl
        rfl
      cases given : call.isRelease with
      | true =>
          obtain ⟨hm, hc, -⟩ := call.of_release (r := r.after earlier) given
          rw [count _ hm, hc]
          rfl
      | false =>
          cases hc : call.effective? (r.after earlier) with
          | none => rw [count _ (congrArg Resolve.memory (call.of_ineffective hc given).1)]; rfl
          | some c =>
              rw [count _ (call.of_effective hc).1, Option.any_some]
              cases (r.after earlier).fallsBack c <;> rfl

theorem switches_congr {call call' : Call} {earlier earlier' : List Call} (demand : call.SameDemand call')
    (same : (r.after earlier').memory = (r.after earlier).memory) :
    r.switches (call' :: earlier') = r.switches (call :: earlier) := by
  rw [switches_cons fresh, switches_cons fresh, demand.fallsBack same]

theorem warnings_after (call : Call) (calm : call.Calm) (earlier : List Call) :
    call.warningsAfter (r.after earlier) =
      call.warningsBefore ++ if r.switches (call :: earlier) then [⟨.warn, r.fallbackText⟩] else [] := by
  obtain ⟨name, settings, -⟩ := memory_after fresh earlier
  have text : (r.after earlier).fallbackText = r.fallbackText := by
    rw [fallbackText, fallbackSize, name, settings, fallbackText, fallbackSize]
  rw [switches_cons fresh]
  cases given : call.isRelease with
  | true =>
      obtain ⟨-, hc, hw⟩ := call.of_release (r := r.after earlier) given
      rw [hw, hc]
      exact (List.append_nil _).symm
  | false =>
      cases hc : call.effective? (r.after earlier) with
      | none =>
          rw [(call.of_ineffective hc given).2 calm]
          exact (List.append_nil _).symm
      | some c => rw [(call.of_effective hc).2 calm, Option.any_some, text]

end

/-- A call that is not effective may as well not have been made. -/
theorem memory_skip {call : Call} {earlier : List Call} (kept : call.isRelease = false)
    (idle : call.effective? (r.after earlier) = none) (later : List Call) :
    (r.after (later ++ earlier)).memory = (r.after (later ++ call :: earlier)).memory := by
  induction later with
  | nil => exact congrArg memory (call.of_ineffective idle kept).1.symm
  | cons last later ih => exact (Call.SameDemand.refl last).act ih

theorem memory_congr {calls calls' : List Call} (demands : List.Forall₂ Call.SameDemand calls calls') :
    (r.after calls').memory = (r.after calls).memory := by
  induction demands with
  | nil => rfl
  | cons demand _ ih => exact demand.act ih

/-- A task warns as often as it switches into the fallback resolution, once each time. Calls that are not effective
make no difference, and neither does what comes of the buffers. -/
theorem fallbackWarnings_of_calls (name : String) (settings : Settings) (calls : List Call) :
    let r : Resolve := { name, settings }
    (r.after calls).fallbackWarnings = calls.tails.countP r.switches ∧
    (∀ call earlier, call :: earlier <:+ calls → call.Calm → call.warningsAfter (r.after earlier) =
      call.warningsBefore ++ if r.switches (call :: earlier) then [⟨.warn, r.fallbackText⟩] else []) ∧
    (∀ last later call earlier, calls = last :: later ++ call :: earlier → call.isRelease = false →
      call.effective? (r.after earlier) = none →
      r.switches (last :: later ++ earlier) = r.switches calls ∧
      (r.after (last :: later ++ earlier)).fallbackWarnings = (r.after calls).fallbackWarnings) ∧
    ∀ calls', List.Forall₂ Call.SameDemand calls calls' → r.switches calls' = r.switches calls ∧
      (r.after calls').fallbackWarnings = (r.after calls).fallbackWarnings := by
  intro r
  refine ⟨fallbackWarnings_after rfl rfl calls, fun call earlier _ calm => warnings_after rfl call calm earlier, ?_, ?_⟩
  · rintro last later call earlier rfl kept idle
    have same := r.memory_skip kept idle
    exact ⟨switches_congr rfl (.refl last) (same later), congrArg Memory.warnings (same (last :: later))⟩
  · intro calls' demands
    refine ⟨?_, congrArg Memory.warnings (r.memory_congr demands)⟩
    cases demands with
    | nil => rfl
    | cons demand rest => exact switches_congr rfl demand (r.memory_congr rest)

/-- Frames with a target and without one, of devices that lack the feature or make no buffers, with the buffers
given back in between. The last call comes first. -/
def comings : List Call :=
  let asked : Context := .request .empty
  let target : Target := { name := "color", id := ⟨1, 0⟩, width := 4, height := 3, format := ⟨"Rgba16Float"⟩ }
  [.prepare ({ context := asked, device := { refusing := true } } : Session Device.Recorder),
    .release ({ device := {} } : Session Device.Recorder),
    .prepare ({ context := asked, device := {} } : Session Device.Recorder),
    .prepare ({ context := .empty, device := {} } : Session Device.Recorder),
    .prepare ({ context := asked.setTargets [], device := {} } : Session Device.Recorder),
    .prepare ({ context := asked.setTargets [target], device := {} } : Session Device.Recorder),
    .execute ({ context := asked, device := {} } : Session Device.Recorder),
    .prepare ({ context := asked, device := {} } : Session Device.Recorder),
    .prepare ({ context := asked, device := { features := ⟨false⟩ } } : Session Device.Recorder)]

theorem fallbackWarnings_of_comings :
    let r : Resolve := { name := "resolve" }
    (r.after comings).fallbackWarnings = 3 ∧
    (∀ last earlier, comings = last :: earlier →
      last.warningsAfter (r.after earlier) = [⟨.warn, r.fallbackText⟩]) ∧
    r.switches (comings.eraseIdx 3) = true := by
  intro r
  obtain ⟨count, logged, skipped, -⟩ := fallbackWarnings_of_calls "resolve" {} comings
  refine ⟨count.trans (by rfl), ?_, ?_⟩
  · rintro _ _ ⟨rfl, rfl⟩
    exact logged _ _ (List.suffix_refl _) (inferInstanceAs (CalmRegistry Device.Recorder))
  · exact (skipped (comings.get ⟨0, by decide⟩) [_, _] _ _ rfl rfl rfl).1

end Transparency.Task.Resolve
