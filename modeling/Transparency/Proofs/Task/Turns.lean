import Transparency.Proofs.Fragment.Held
import Transparency.Proofs.Frame.Context
import Transparency.Task.Basic

/-!
# What a task does in its turn

For each kind of task, all that can come of preparing it and of executing it.
-/

namespace Transparency.Fragment.Commands
open Device (CommandSink)
open Transparency.Frame (Session)
open Transparency.Frame.Session (Performs)

theorem run_performs {σ : Type} [CommandSink σ] (commands : Commands) (s : Session σ) :
    Performs s (commands.run s).2 := by
  induction commands generalizing s with
  | done result => exact .refl s
  | fill h v next ih =>
      simp only [run]
      exact ((Performs.refl s).fill h v).trans (ih _ _)
  | draw command next ih =>
      simp only [run]
      exact ((Performs.refl s).draw command).trans (ih _ _)

end Transparency.Fragment.Commands

namespace Transparency.Frame.Session
open Buffer (Handle)
open Device (CommandSink CommandsKeep)

variable {σ : Type} [CommandSink σ] {s t : Session σ} {e : Error}

theorem clearCounter_of_hasFlag (h : s.context.hasFlag .clearedFlag = true) :
    s.clearCounter = (.ok (), s) := by
  rw [clearCounter, if_pos h]

theorem of_clearCounter_error (h : s.clearCounter = (.error e, t)) :
    Performs s t ∧ t.history = s.history := by
  unfold clearCounter at h
  split at h
  · cases h
  · split at h
    · cases h
      exact ⟨.refl _, rfl⟩
    · rename_i counter _
      have hp := (Performs.refl s).fill counter counterClearValue
      split at h <;> rename_i hf
      · cases h
        rw [hf] at hp
        exact ⟨hp, (of_absorb_error hf).2.2.2⟩
      · cases h

/-- Where clearing succeeds, the counter was cleared before, or it is filled now. -/
theorem of_clearCounter_ok (h : s.clearCounter = (.ok (), t)) :
    (s.context.hasFlag .clearedFlag = true ∧ t = s) ∨
    (s.context.hasFlag .clearedFlag = false ∧ ∃ counter u,
      s.context.buffer? .counterBuffer = some counter ∧
      s.fill counter counterClearValue = (.ok (), u) ∧ t.device = u.device ∧
      t.context = s.context.setFlag .clearedFlag ∧
      t.history = s.history ++ [⟨.filled counter counterClearValue, u.device⟩,
        ⟨.cleared counter, u.device⟩]) := by
  unfold clearCounter at h
  split at h
  · rename_i cleared
    cases h
    exact Or.inl ⟨cleared, rfl⟩
  · rename_i uncleared
    split at h
    · cases h
    · rename_i counter hb
      split at h <;> rename_i hf
      · cases h
      · rename_i u
        cases h
        obtain ⟨-, -, hc, hh⟩ := of_absorb_ok hf
        refine Or.inr ⟨by simpa using uncleared, counter, u, hb, hf, rfl, ?_, ?_⟩
        · rw [← hc]; rfl
        · simp [report, note, withContext, hh]

theorem device_clearCounter {P : σ → Prop} (keep : CommandsKeep P) (h : s.clearCounter = (.ok (), t))
    (hs : P s.device) : P t.device := by
  rcases of_clearCounter_ok h with ⟨-, rfl⟩ | ⟨-, counter, u, -, hf, hd, -, -⟩
  · exact hs
  · have hp := (Performs.refl s).fill counter counterClearValue
    rw [hf] at hp
    rw [hd]
    exact hp.device keep hs

end Transparency.Frame.Session

namespace Transparency.Task
open Buffer (Handle)
open Device (Registry CommandSink LawfulRegistry LawfulDevice RegistryKeeps CommandsKeep)
open Fragment (Buffers Keeps)
open Transparency.Frame (Session Context Event)
open Transparency.Frame.Session (Stocks Performs)

variable {σ : Type}

/-! ## Producers -/

namespace Producer
variable [CommandSink σ] (p : Producer) (s : Session σ)

theorem execute_of_idle (h : p.requested = false) :
    (p.execute s).1 = p ∧ Session.Alike s (p.execute s).2 := by
  rw [execute, h]
  exact ⟨rfl, Session.alike_report _ _ _⟩

/-- Once the counter is cleared, the producer carries out the commands of its writer. -/
theorem execute_of_clear {b : Buffers} {u : Session σ} (asked : p.requested = true)
    (hb : Buffers.ofContext? s.context = some b) (hc : s.clearCounter = (.ok (), u)) :
    (p.execute s).1 = { p with writes := p.writes + 1 } ∧
      Session.Alike ((p.writer.write b).run (u.note (.wrote p.name b))).2 (p.execute s).2 := by
  have he : p.execute s = p.callWriter b u := by
    rw [execute, asked, hb, hc]
    rfl
  rw [he, callWriter]
  refine ⟨rfl, ?_⟩
  dsimp only
  split
  · exact .refl _
  · exact Session.alike_fail _ _ _

/-- A producer in its turn records nothing, or it calls its writer once the counter is cleared. -/
theorem execute_cases :
    ((p.execute s).1 = p ∧ Performs s (p.execute s).2 ∧ (p.execute s).2.history = s.history) ∨
    (p.requested = true ∧ ∃ b u, Buffers.ofContext? s.context = some b ∧
      s.clearCounter = (.ok (), u) ∧ (p.execute s).1 = { p with writes := p.writes + 1 } ∧
      Performs (u.note (.wrote p.name b)) (p.execute s).2) := by
  by_cases asked : p.requested = true
  · rcases hb : Buffers.ofContext? s.context with _ | b
    · have he : p.execute s = (p, s.fail p.name (.missingBuffers p.name)) := by
        rw [execute, asked, hb]
        rfl
      rw [he]
      exact Or.inl ⟨rfl, (Performs.refl s).report _ _, rfl⟩
    · rcases hc : s.clearCounter with ⟨e | _, u⟩
      · obtain ⟨hp, hh⟩ := Session.of_clearCounter_error hc
        have he : p.execute s = (p, u.fail p.name e) := by
          rw [execute, asked, hb, hc]
          rfl
        rw [he]
        exact Or.inl ⟨rfl, hp.report _ _, hh⟩
      · obtain ⟨hp, hr⟩ := p.execute_of_clear s asked hb hc
        exact Or.inr ⟨asked, b, u, rfl, rfl, hp, .alike hr ((p.writer.write b).run_performs _)⟩
  · obtain ⟨hp, ha⟩ := p.execute_of_idle s (Bool.eq_false_iff.mpr asked)
    exact Or.inl ⟨hp, .alike ha (.refl s), ha.history⟩

theorem device_execute {P : σ → Prop} (keep : CommandsKeep P) (hs : P s.device) :
    P (p.execute s).2.device := by
  rcases p.execute_cases s with ⟨-, hp, -⟩ | ⟨-, b, u, -, hc, -, hp⟩
  · exact hp.device keep hs
  · have hu : P u.device := Session.device_clearCounter keep hc hs
    exact hp.device keep hu

theorem room_execute [Registry σ] [LawfulDevice σ] : (p.execute s).2.room = s.room :=
  p.device_execute s (Device.commandsKeep_capacity? (Registry.capacity? s.device)) rfl

end Producer

/-! ## The task that resolves -/

namespace Resolve
variable (r : Resolve)

/-- The size that the task asks for in a context. -/
def sizeFor (c : Context) : Size :=
  { r with targets := (c.targets?.getD []).map Target.kept }.wantedSize

theorem settleSize_spec (s : Session σ) : (r.settleSize s).1.bundle = r.bundle ∧
    (r.settleSize s).1.wantedSize = r.wantedSize ∧ (r.settleSize s).1.pass = r.pass ∧
    (r.settleSize s).1.targets = r.targets ∧ (r.settleSize s).1.settings = r.settings ∧
    Session.Alike s (r.settleSize s).2 := by
  unfold settleSize
  split
  · exact ⟨rfl, rfl, rfl, rfl, rfl, Session.alike_report _ _ _⟩
  · exact ⟨rfl, rfl, rfl, rfl, rfl, .refl s⟩

section
variable [Registry σ] (s : Session σ)

/-- Getting the buffers ready is preparing the bundle for the size that the context asks for. -/
theorem prepareBuffers_spec : ∃ u, Session.Alike s u ∧
    (r.prepareBuffers s).1.bundle = (r.bundle.prepare u (r.sizeFor s.context)).bundle ∧
    (r.prepareBuffers s).1.pass = r.pass ∧ (r.prepareBuffers s).1.settings = r.settings ∧
    Session.Alike (r.bundle.prepare u (r.sizeFor s.context)).session (r.prepareBuffers s).2 := by
  obtain ⟨hb, hw, hp, -, hs, ha⟩ :=
    settleSize_spec { r with targets := (s.context.targets?.getD []).map Target.kept } s
  refine ⟨_, ha, ?_, hp, hs, ?_⟩
  · simp only [prepareBuffers, hb, hw]; rfl
  · simp only [prepareBuffers, hb, hw]
    split <;> rename_i he
    · exact .refl _
    · exact Session.alike_fail _ _ _

theorem ensurePass_cases :
    (∃ e, r.ensurePass s = (.error e, s)) ∨
      ∃ p t, r.ensurePass s = (.ok { r with pass := some p }, t) ∧ Session.Alike s t := by
  unfold ensurePass
  split
  · rename_i built
    obtain ⟨p, hp⟩ := Option.isSome_iff_exists.mp built
    exact Or.inr ⟨p, s, by rw [← hp], .refl s⟩
  · split
    · exact Or.inl ⟨_, rfl⟩
    · split
      · exact Or.inl ⟨_, rfl⟩
      · exact Or.inr ⟨_, _, rfl, Session.alike_report _ _ _⟩

theorem prepare_of_not_isNeeded (h : r.isNeeded s.context = false) :
    (r.prepare s).1 = r ∧ Session.Alike s (r.prepare s).2 := by
  rw [prepare, h]
  exact ⟨rfl, Session.alike_report _ _ _⟩

/-- The context of a frame that is prepared anew: the counter counts as not cleared. -/
def unclear (s : Session σ) : Session σ := s.withContext (s.context.dropFlag .clearedFlag)

theorem prepare_eq (h : r.isNeeded s.context = true) : r.prepare s = match r.ensurePass (unclear s) with
    | (.error error, session) => (r, session.fail r.name error)
    | (.ok r, session) => r.prepareBuffers session := by
  simp only [prepare, h]
  rfl

theorem prepare_of_pass {p : ResolvePass} {t : Session σ} (h : r.isNeeded s.context = true)
    (he : r.ensurePass (unclear s) = (.ok { r with pass := some p }, t))
    (ha : Session.Alike (unclear s) t) :
    ∃ u, Session.Alike (unclear s) u ∧
      (r.prepare s).1.bundle = (r.bundle.prepare u (r.sizeFor (unclear s).context)).bundle ∧
      (r.prepare s).1.pass.isSome = true ∧ (r.prepare s).1.settings = r.settings ∧
      Session.Alike (r.bundle.prepare u (r.sizeFor (unclear s).context)).session
        (r.prepare s).2 := by
  rw [r.prepare_eq s h, he]
  obtain ⟨u, hu, hb, hp, hs, hr⟩ := prepareBuffers_spec { r with pass := some p } t
  refine ⟨u, ha.trans hu, ?_, by rw [hp]; rfl, hs, ?_⟩
  · rw [← ha.context]; exact hb
  · rw [← ha.context]; exact hr

/-- Where the frame needs the task, either its pass cannot be built, or the buffers are made ready. -/
theorem prepare_of_isNeeded (h : r.isNeeded s.context = true) :
    ((r.prepare s).1 = r ∧ Session.Alike (unclear s) (r.prepare s).2) ∨
    ∃ u, Session.Alike (unclear s) u ∧
      (r.prepare s).1.bundle = (r.bundle.prepare u (r.sizeFor (unclear s).context)).bundle ∧
      Session.Alike (r.bundle.prepare u (r.sizeFor (unclear s).context)).session
        (r.prepare s).2 := by
  rcases r.ensurePass_cases (unclear s) with ⟨e, he⟩ | ⟨p, t, he, ha⟩
  · rw [r.prepare_eq s h, he]
    exact Or.inl ⟨rfl, Session.alike_fail _ _ _⟩
  · obtain ⟨u, hu, hb, -, -, hr⟩ := r.prepare_of_pass s h he ha
    exact Or.inr ⟨u, hu, hb, hr⟩

/-- Where the frame needs the task, the cleared flag is taken down; then the task may put the buffers in
that its bundle has now. -/
theorem prepare_context_of_isNeeded (h : r.isNeeded s.context = true) :
    (r.prepare s).2.context = (unclear s).context ∨
    ∃ b, (r.prepare s).1.bundle.buffers = some b ∧
      (r.prepare s).2.context = b.publish (unclear s).context := by
  rcases r.prepare_of_isNeeded s h with ⟨-, ha⟩ | ⟨u, ha, hb, hr⟩
  · exact Or.inl ha.context
  · rw [hb, hr.context, ← ha.context]
    exact r.bundle.prepare_context _ u

theorem hasFlag_prepare :
    (r.prepare s).2.context.hasFlag .requestFlag = s.context.hasFlag .requestFlag ∧
      (s.context.hasFlag .clearedFlag = false →
        (r.prepare s).2.context.hasFlag .clearedFlag = false) := by
  cases hn : r.isNeeded s.context with
  | false => rw [(r.prepare_of_not_isNeeded s hn).2.context]; exact ⟨rfl, id⟩
  | true =>
      rcases r.prepare_context_of_isNeeded s hn with hc | ⟨b, -, hc⟩
      · rw [hc]; simp [unclear, Session.withContext]
      · rw [hc]; simp [unclear, Session.withContext, Frame.Key.fragmentBuffers]

/-- Being prepared, the task does nothing but keep buffers. -/
theorem prepare_stocks : Stocks s (r.prepare s).2 := by
  cases hn : r.isNeeded s.context with
  | false => exact .alike (r.prepare_of_not_isNeeded s hn).2 (.refl s)
  | true =>
      have hu : Stocks s (unclear s) := (Stocks.refl s).withContext _
      rcases r.prepare_of_isNeeded s hn with ⟨-, ha⟩ | ⟨u, ha, -, hr⟩
      · exact .alike ha hu
      · exact .alike hr ((Stocks.alike ha hu).trans (r.bundle.prepare_stocks _ u))

theorem sizeFor_dropFlag (c : Context) (k : Frame.Key) : r.sizeFor (c.dropFlag k) = r.sizeFor c := by
  rw [sizeFor, Context.targets?_dropFlag, sizeFor]

theorem name_prepare : (r.prepare s).1.name = r.name := by
  cases hn : r.isNeeded s.context with
  | false => rw [(r.prepare_of_not_isNeeded s hn).1]
  | true =>
      rw [r.prepare_eq s hn]
      rcases r.ensurePass_cases (unclear s) with ⟨e, he⟩ | ⟨p, t, he, -⟩
      · rw [he]
      · rw [he]
        simp only [prepareBuffers, settleSize]
        split <;> rfl

/-- The task takes no buffer away while it is prepared, and those of its bundle are there after it. -/
theorem prepare_keeps [LawfulRegistry σ] (sound : s.Sound) (held : r.bundle.Held s) :
    Keeps s (r.prepare s).2 ∧ (r.prepare s).1.bundle.Held (r.prepare s).2 := by
  cases hn : r.isNeeded s.context with
  | false =>
      obtain ⟨he, ha⟩ := r.prepare_of_not_isNeeded s hn
      rw [he]
      exact ⟨.of_eq ha.room, held.keeps (.of_eq ha.room)⟩
  | true =>
      rcases r.prepare_of_isNeeded s hn with ⟨he, ha⟩ | ⟨u, ha, hb, hr⟩
      · rw [he]
        have hk : Keeps s (r.prepare s).2 := .of_eq ha.room
        exact ⟨hk, held.keeps hk⟩
      · have hk : Keeps s u := .of_eq ha.room
        have hs : u.Sound := ha.sound sound
        have hkeeps := r.bundle.prepare_keeps hs (r.sizeFor (unclear s).context)
        have hheld := (held.keeps hk).prepare hs (r.sizeFor (unclear s).context)
        rw [hb]
        exact ⟨(hk.trans hkeeps).trans (.of_eq hr.room), hheld.keeps (.of_eq hr.room)⟩

end

section
variable [CommandSink σ] (s : Session σ)

/-- The pass comes to nothing, or it is drawn with the buffers in the context. -/
theorem drawPass_cases :
    (Performs s (r.drawPass s) ∧ (r.drawPass s).history = s.history) ∨
      ∃ pass b u, Buffers.ofContext? s.context = some b ∧
        s.draw (r.resolveDraw pass b) = (.ok (), u) ∧
        r.drawPass s = u.note (.resolved r.name (r.resolveDraw pass b)) := by
  unfold drawPass
  split
  · exact Or.inl ⟨(Performs.refl s).report _ _, rfl⟩
  · rename_i pass _
    split
    · exact Or.inl ⟨(Performs.refl s).report _ _, rfl⟩
    · rename_i b hb
      have hp := (Performs.refl s).draw (r.resolveDraw pass b)
      dsimp only
      split <;> rename_i he
      · rw [he] at hp
        exact Or.inl ⟨hp.report _ _, (Session.of_absorb_error he).2.2.2⟩
      · exact Or.inr ⟨pass, b, _, hb, he, rfl⟩

/-- The session after the flags of the frame were taken down. -/
def takeDown (s : Session σ) : Session σ :=
  s.withContext ((s.context.dropFlag .requestFlag).dropFlag .clearedFlag)

theorem execute_of_idle (h : s.context.hasFlag .requestFlag = false) :
    Session.Alike s (r.execute s) := by
  rw [execute, h]
  exact Session.alike_report _ _ _

theorem execute_of_requested (h : s.context.hasFlag .requestFlag = true) : r.execute s =
    if r.settings.enabled then r.drawPass (takeDown s) else takeDown s := by
  simp only [execute, h, takeDown]
  cases r.settings.enabled <;> rfl

theorem device_execute {P : σ → Prop} (keep : CommandsKeep P) (hs : P s.device) :
    P (r.execute s).device := by
  cases hr : s.context.hasFlag .requestFlag with
  | false => rw [(r.execute_of_idle s hr).device]; exact hs
  | true =>
      rw [r.execute_of_requested s hr]
      split
      · rcases r.drawPass_cases (takeDown s) with ⟨hp, -⟩ | ⟨pass, b, u, -, hd, he⟩
        · exact hp.device keep hs
        · have hp := (Performs.refl (takeDown s)).draw (r.resolveDraw pass b)
          rw [hd] at hp
          rw [he]
          exact hp.device keep hs
      · exact hs

theorem room_execute [Registry σ] [LawfulDevice σ] : (r.execute s).room = s.room :=
  r.device_execute s (Device.commandsKeep_capacity? (Registry.capacity? s.device)) rfl

end

end Resolve

section
variable [Registry σ] (s : Session σ)

theorem prepare_setup (task : Setup) :
    (setup task).prepare s = (setup task, s.withContext (task.prepare s.context)) := rfl

theorem prepare_producer (p : Producer) : (producer p).prepare s =
    (producer { p with requested := p.wants },
      s.withContext (if p.wants then s.context.request else s.context)) := rfl

theorem prepare_resolve (r : Resolve) :
    (resolve r).prepare s = (resolve (r.prepare s).1, (r.prepare s).2) := rfl

end

section
variable [CommandSink σ] (s : Session σ)

theorem execute_setup (task : Setup) : (setup task).execute s = (setup task, s) := rfl

theorem execute_producer (p : Producer) :
    (producer p).execute s = (producer (p.execute s).1, (p.execute s).2) := rfl

theorem execute_resolve (r : Resolve) : (resolve r).execute s = (resolve r, r.execute s) := rfl

end

end Transparency.Task
