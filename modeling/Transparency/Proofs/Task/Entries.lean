import Transparency.Proofs.Task.Turns

/-!
# Entries that tasks leave alone

Each task changes few entries of the frame context in its turn. All others, those with any other name among
them, keep their values.
-/

namespace Transparency
open Device (Registry CommandSink)
open Fragment (Buffers)
open Transparency.Frame (Session Context Key)

variable {σ : Type}

namespace Frame.Session
variable [CommandSink σ] {s t : Session σ} {k : Key}

/-- Clearing the counter changes one flag at most. -/
theorem context_clearCounter (h : s.clearCounter = (.ok (), t)) :
    t.context = s.context ∨ t.context = s.context.setFlag .clearedFlag := by
  rcases of_clearCounter_ok h with ⟨-, rfl⟩ | ⟨-, counter, u, -, -, -, hc, -⟩
  · exact Or.inl rfl
  · exact Or.inr hc

end Frame.Session

namespace Task
variable {k : Key}

theorem Setup.get?_prepare (task : Setup) (c : Context) (other : k ≠ .targets) :
    (task.prepare c).get? k = c.get? k := by
  simp [Setup.prepare, Context.setTargets, other]

theorem Producer.get?_prepare (p : Producer) (c : Context) (other : k ≠ .requestFlag) :
    (p.prepare c).2.get? k = c.get? k := by
  simp only [Producer.prepare]
  split
  · exact c.get?_setFlag_of_ne other
  · rfl

theorem Producer.context_execute [CommandSink σ] (p : Producer) (s : Session σ) :
    (p.execute s).2.context = s.context ∨ (p.execute s).2.context = s.context.setFlag .clearedFlag := by
  rcases p.execute_cases s with ⟨-, hp, -⟩ | ⟨-, b, u, -, hc, -, hp⟩
  · exact Or.inl hp.context
  · rw [show (p.execute s).2.context = u.context from hp.context]
    exact Session.context_clearCounter hc

theorem Producer.get?_execute [CommandSink σ] (p : Producer) (s : Session σ) (other : k ≠ .clearedFlag) :
    (p.execute s).2.context.get? k = s.context.get? k := by
  rcases p.context_execute s with hc | hc
  · rw [hc]
  · rw [hc, Context.get?_setFlag_of_ne _ other]

namespace Resolve
variable (r : Resolve) (s : Session σ)

theorem get?_prepare [Registry σ] (cleared : k ≠ .clearedFlag) (other : k ∉ Key.fragmentBuffers) :
    (r.prepare s).2.context.get? k = s.context.get? k := by
  have unclear : (unclear s).context.get? k = s.context.get? k := s.context.get?_dropFlag_of_ne cleared
  cases hn : r.isNeeded s.context with
  | false => rw [(r.prepare_of_not_isNeeded s hn).2.context]
  | true =>
      rcases r.prepare_context_of_isNeeded s hn with hc | ⟨b, -, hc⟩
      · rw [hc, unclear]
      · rw [hc, b.get?_publish_of_notMem _ other, unclear]

/-- The buffers of the frame context are left as they are, or all of them are those of the bundle. -/
theorem prepare_entries [Registry σ] :
    (∀ k, k ≠ .clearedFlag → (r.prepare s).2.context.get? k = s.context.get? k) ∨
    ∃ b, (r.prepare s).1.bundle.buffers = some b ∧
      ∀ k h, (k, h) ∈ b.entries → (r.prepare s).2.context.get? k = some (.buffer h) := by
  cases hn : r.isNeeded s.context with
  | false =>
      refine Or.inl fun k _ => ?_
      rw [(r.prepare_of_not_isNeeded s hn).2.context]
  | true =>
      rcases r.prepare_context_of_isNeeded s hn with hc | ⟨b, hb, hc⟩
      · refine Or.inl fun k cleared => ?_
        rw [hc]
        exact s.context.get?_dropFlag_of_ne cleared
      · refine Or.inr ⟨b, hb, fun k h entry => ?_⟩
        rw [hc, b.get?_publish _ entry]

/-- Where the frame needs the task, the cleared flag is taken down; an entry of another type stays. -/
theorem get?_prepare_clearedFlag [Registry σ] : (r.prepare s).2.context.get? .clearedFlag =
    if r.isNeeded s.context = true ∧ s.context.hasFlag .clearedFlag = true then none
    else s.context.get? .clearedFlag := by
  cases hn : r.isNeeded s.context with
  | false =>
      rw [(r.prepare_of_not_isNeeded s hn).2.context]
      simp
  | true =>
      have unclear : (unclear s).context.get? .clearedFlag =
          if s.context.hasFlag .clearedFlag = true then none else s.context.get? .clearedFlag :=
        (s.context.get?_dropFlag .clearedFlag .clearedFlag).trans (by simp)
      rcases r.prepare_context_of_isNeeded s hn with hc | ⟨b, -, hc⟩
      · rw [hc, unclear]
        simp
      · rw [hc, b.get?_publish_of_notMem _ (by decide), unclear]
        simp

theorem context_drawPass [CommandSink σ] : (r.drawPass s).context = s.context := by
  rcases r.drawPass_cases s with ⟨hp, -⟩ | ⟨pass, b, u, -, hd, he⟩
  · exact hp.context
  · rw [he]
    exact (Session.of_absorb_ok hd).2.2.1

/-- Being executed, the task takes the flags of the frame down, or it leaves the context alone. -/
theorem context_execute [CommandSink σ] : (r.execute s).context =
    if s.context.hasFlag .requestFlag then (takeDown s).context else s.context := by
  cases hr : s.context.hasFlag .requestFlag with
  | false => exact (r.execute_of_idle s hr).context
  | true =>
      rw [r.execute_of_requested s hr, if_pos rfl]
      split
      · exact r.context_drawPass _
      · rfl

/-- All that being executed does to the frame context: if a flag asks for the buffers, the flags of the frame
are taken away. -/
theorem get?_execute_eq [CommandSink σ] (k : Key) : (r.execute s).context.get? k =
    if s.context.hasFlag .requestFlag = true ∧ k ∈ [Key.requestFlag, .clearedFlag] ∧
      s.context.hasFlag k = true then none
    else s.context.get? k := by
  rw [context_execute]
  cases asked : s.context.hasFlag .requestFlag with
  | false => simp
  | true =>
      simp only [if_true, takeDown, Session.withContext, Context.get?_dropFlag, Context.hasFlag_dropFlag]
      by_cases request : k = .requestFlag
      · simp [request, asked]
      · by_cases cleared : k = .clearedFlag <;> simp [request, cleared]

theorem get?_execute [CommandSink σ] (request : k ≠ .requestFlag) (cleared : k ≠ .clearedFlag) :
    (r.execute s).context.get? k = s.context.get? k := by
  simp [get?_execute_eq, request, cleared]

end Resolve

end Task

end Transparency
