import Transparency.Proofs.Scene.Rounds

/-!
# A frame that is executed

What each task adds to the history in its turn, and what all producers add together.
-/

namespace Transparency
open Device (CommandSink CommandsKeep)
open Fragment (Buffers)
open Transparency.Frame (Session Moment Event counterClearValue)

variable {σ : Type}

/-! ## What a producer adds in its turn -/

/-- What a producer adds to the history: nothing; or a call of its writer, and the commands of the writer.
If the counter is not cleared yet, it is cleared before. -/
inductive Task.Producer.Adds (p : Task.Producer) (s t : Session σ) : List (Moment σ) → Prop
  | nothing : t.context = s.context → p.Adds s t []
  | writes {b : Buffers} {d : σ} {commands : List (Moment σ)} : p.requested = true →
      Buffers.ofContext? s.context = some b → s.context.hasFlag .clearedFlag = true →
      t.context = s.context → (∀ m ∈ commands, m.event.isCommand = true) →
      p.Adds s t (⟨.wrote p.name b, d⟩ :: commands)
  | clears {b : Buffers} {d : σ} {commands : List (Moment σ)} : p.requested = true →
      Buffers.ofContext? s.context = some b → s.context.hasFlag .clearedFlag = false →
      t.context = s.context.setFlag .clearedFlag → (∀ m ∈ commands, m.event.isCommand = true) →
      p.Adds s t (⟨.filled b.counter counterClearValue, d⟩ :: ⟨.cleared b.counter, d⟩ ::
        ⟨.wrote p.name b, d⟩ :: commands)

/-- What the task that resolves adds: the draw of its pass, or nothing. If any task asked for the buffers,
the flags of the frame are taken down. -/
inductive Task.Resolve.Adds (r : Task.Resolve) (s t : Session σ) : List (Moment σ) → Prop
  | idle : s.context.hasFlag .requestFlag = false → t.context = s.context → r.Adds s t []
  | nothing : s.context.hasFlag .requestFlag = true →
      t.context = (Task.Resolve.takeDown s).context → r.Adds s t []
  | draws {draw : Draw} {d : σ} : s.context.hasFlag .requestFlag = true →
      t.context = (Task.Resolve.takeDown s).context →
      r.Adds s t [⟨.drew draw, d⟩, ⟨.resolved r.name draw, d⟩]

theorem Task.Producer.Adds.writes_once {p : Task.Producer} {s t : Session σ} {made : List (Moment σ)}
    (h : p.Adds s t made) : made.countP (·.event.isWrite) ≤ 1 ∧ ∀ m ∈ made, m.event.isWrite = true →
      p.requested = true ∧ ∃ b, m.event = .wrote p.name b := by
  have quiet {commands : List (Moment σ)} (hcs : ∀ m ∈ commands, m.event.isCommand = true) :
      commands.countP (·.event.isWrite) = 0 :=
    List.countP_eq_zero.mpr fun m hm => by simp [(Event.of_isCommand (hcs m hm)).2.2.1]
  cases h with
  | nothing => simp
  | writes asked _ _ _ hcs =>
      refine ⟨?_, fun m hm hw => ⟨asked, ?_⟩⟩
      · rw [List.countP_cons, quiet hcs]
        simp [Event.isWrite]
      rcases List.mem_cons.mp hm with rfl | hm
      · exact ⟨_, rfl⟩
      · rw [(Event.of_isCommand (hcs m hm)).2.2.1] at hw; cases hw
  | clears asked _ _ _ hcs =>
      refine ⟨?_, fun m hm hw => ⟨asked, ?_⟩⟩
      · rw [List.countP_cons, List.countP_cons, List.countP_cons, quiet hcs]
        simp [Event.isWrite]
      simp only [List.mem_cons] at hm
      rcases hm with rfl | rfl | rfl | hm
      · cases hw
      · cases hw
      · exact ⟨_, rfl⟩
      · rw [(Event.of_isCommand (hcs m hm)).2.2.1] at hw; cases hw

/-! ## What several producers add -/

/-- What producers add together: nothing; or one clear, unless the counter is cleared already, and
after it what only writers and their commands add. -/
structure Frame.Session.Filled (s t : Session σ) (made : List (Moment σ)) : Prop where
  history : t.history = s.history ++ made
  request : t.context.hasFlag .requestFlag = s.context.hasFlag .requestFlag
  quiet : ∀ m ∈ made, m.event.isStock = false ∧ m.event.isResolve = false
  cleared : s.context.hasFlag .clearedFlag = true →
    t.context.hasFlag .clearedFlag = true ∧ ∀ m ∈ made, m.event.isClear = false
  uncleared : s.context.hasFlag .clearedFlag = false →
    (t.context.hasFlag .clearedFlag = false ∧ made = []) ∨
    (t.context.hasFlag .clearedFlag = true ∧ ∃ counter d rest,
      made = ⟨.filled counter counterClearValue, d⟩ :: ⟨.cleared counter, d⟩ :: rest ∧
        ∀ m ∈ rest, m.event.isClear = false)

theorem Frame.Session.Filled.refl (s : Session σ) : s.Filled s [] :=
  ⟨by simp, rfl, by simp, fun up => ⟨up, by simp⟩, fun down => Or.inl ⟨down, rfl⟩⟩

theorem Frame.Session.Filled.trans {s t u : Session σ} {made made' : List (Moment σ)} (h : s.Filled t made)
    (h' : t.Filled u made') : s.Filled u (made ++ made') := by
  refine ⟨by rw [h'.history, h.history, List.append_assoc], h'.request.trans h.request, ?_, ?_, ?_⟩
  · intro m hm
    rcases List.mem_append.mp hm with hm | hm
    · exact h.quiet m hm
    · exact h'.quiet m hm
  · intro up
    obtain ⟨up, hmade⟩ := h.cleared up
    obtain ⟨up, hmade'⟩ := h'.cleared up
    refine ⟨up, fun m hm => ?_⟩
    rcases List.mem_append.mp hm with hm | hm
    · exact hmade m hm
    · exact hmade' m hm
  · intro down
    rcases h.uncleared down with ⟨down, rfl⟩ | ⟨up, counter, d, rest, rfl, hrest⟩
    · exact h'.uncleared down
    · -- the first part cleared the counter, so the second one does not
      obtain ⟨up, hmade'⟩ := h'.cleared up
      refine Or.inr ⟨up, counter, d, rest ++ made', rfl, fun m hm => ?_⟩
      rcases List.mem_append.mp hm with hm | hm
      · exact hrest m hm
      · exact hmade' m hm

theorem Frame.Session.Filled.of_adds {p : Task.Producer} {s t : Session σ} {made : List (Moment σ)}
    (hh : t.history = s.history ++ made) (h : p.Adds s t made) : s.Filled t made := by
  cases h with
  | nothing hc =>
      refine ⟨hh, by rw [hc], by simp, fun up => ⟨by rw [hc, up], by simp⟩, fun down => ?_⟩
      exact Or.inl ⟨by rw [hc, down], rfl⟩
  | writes _ _ up hc hcs =>
      refine ⟨hh, by rw [hc], fun m hm => ?_, fun up => ⟨by rw [hc, up], fun m hm => ?_⟩, ?_⟩
      · rcases List.mem_cons.mp hm with rfl | hm
        · exact ⟨rfl, rfl⟩
        · exact ⟨(Event.of_isCommand (hcs m hm)).1, (Event.of_isCommand (hcs m hm)).2.2.2⟩
      · rcases List.mem_cons.mp hm with rfl | hm
        · rfl
        · exact (Event.of_isCommand (hcs m hm)).2.1
      · simp [up]
  | clears _ _ down hc hcs =>
      refine ⟨hh, by simp [hc], fun m hm => ?_, by simp [down], fun _ => Or.inr ?_⟩
      · simp only [List.mem_cons] at hm
        rcases hm with rfl | rfl | rfl | hm
        · exact ⟨rfl, rfl⟩
        · exact ⟨rfl, rfl⟩
        · exact ⟨rfl, rfl⟩
        · exact ⟨(Event.of_isCommand (hcs m hm)).1, (Event.of_isCommand (hcs m hm)).2.2.2⟩
      · refine ⟨by simp [hc], _, _, _, rfl, fun m hm => ?_⟩
        rcases List.mem_cons.mp hm with rfl | hm
        · rfl
        · exact (Event.of_isCommand (hcs m hm)).2.1

section
variable [CommandSink σ]

theorem Task.Producer.execute_adds (p : Task.Producer) (s : Session σ) :
    ∃ made, (p.execute s).2.history = s.history ++ made ∧ p.Adds s (p.execute s).2 made := by
  rcases p.execute_cases s with ⟨-, hp, hh⟩ | ⟨asked, b, u, hb, hc, -, hp⟩
  · exact ⟨[], by simp [hh], .nothing hp.context⟩
  · obtain ⟨commands, hm, hcommands⟩ := hp.history
    have hctx : (p.execute s).2.context = u.context := hp.context
    rcases Session.of_clearCounter_ok hc with ⟨up, rfl⟩ | ⟨down, counter, v, hcounter, -, hd, hu, hh⟩
    · refine ⟨⟨.wrote p.name b, u.device⟩ :: commands, ?_, .writes asked hb up hctx hcommands⟩
      rw [hm, Session.note, List.append_assoc]
      rfl
    · rw [Buffers.counter_of_ofContext? hb] at hcounter
      cases hcounter
      refine ⟨⟨.filled b.counter counterClearValue, u.device⟩ :: ⟨.cleared b.counter, u.device⟩ ::
        ⟨.wrote p.name b, u.device⟩ :: commands, ?_, .clears asked hb down (hctx.trans hu) hcommands⟩
      rw [hm, Session.note, hh, hd]
      simp

theorem Task.Resolve.execute_adds (r : Task.Resolve) (s : Session σ) :
    ∃ made, (r.execute s).history = s.history ++ made ∧ r.Adds s (r.execute s) made := by
  cases hr : s.context.hasFlag .requestFlag with
  | false =>
      have ha := r.execute_of_idle s hr
      exact ⟨[], by simp [ha.history], .idle hr ha.context⟩
  | true =>
      rw [r.execute_of_requested s hr]
      split
      · rcases r.drawPass_cases (takeDown s) with ⟨hp, hh⟩ | ⟨pass, b, u, -, hd, he⟩
        · exact ⟨[], by rw [hh, List.append_nil]; rfl, .nothing hr hp.context⟩
        · obtain ⟨-, -, hc, hh⟩ := Session.of_absorb_ok hd
          rw [he]
          refine ⟨[⟨.drew (r.resolveDraw pass b), u.device⟩,
            ⟨.resolved r.name (r.resolveDraw pass b), u.device⟩], ?_, .draws hr hc⟩
          rw [Session.note, hh, List.append_assoc]
          rfl
      · exact ⟨[], by rw [List.append_nil]; rfl, .nothing hr rfl⟩

end

/-! ## Turns -/

/-- The turn of a task in the execution of a frame: the task, and the session as it finds it. -/
structure Turn (σ : Type) where
  task : Task
  session : Session σ

namespace Turn
variable [CommandSink σ]

/-- What the turn adds to the history. -/
def made (turn : Turn σ) : List (Moment σ) :=
  (turn.task.execute turn.session).2.history.drop turn.session.history.length

/-- The turns of some tasks, one after another. -/
def all : List Task → Session σ → List (Turn σ)
  | [], _ => []
  | task :: rest, s =>
    ⟨task, Scene.announce "execute" task s⟩ :: all rest (Scene.executeTurn task s).2

/-- What some turns add to the history together. -/
def allMade (turns : List (Turn σ)) : List (Moment σ) := turns.flatMap made

theorem allMade_append (front back : List (Turn σ)) :
    allMade (front ++ back) = allMade front ++ allMade back := List.flatMap_append

theorem made_eq {task : Task} {s : Session σ} {made : List (Moment σ)}
    (h : (task.execute s).2.history = s.history ++ made) : Turn.made ⟨task, s⟩ = made := by
  simp [Turn.made, h]

theorem all_append (front back : List Task) (s : Session σ) : all (front ++ back) s =
    all front s ++ all back (Task.round Scene.executeTurn front s).2 := by
  induction front generalizing s with
  | nil => rfl
  | cons task front ih => simp only [List.cons_append, all, ih, Task.round]

theorem task_all (tasks : List Task) (s : Session σ) : (all tasks s).map (·.task) = tasks := by
  induction tasks generalizing s with
  | nil => rfl
  | cons task tasks ih => simp only [all, List.map_cons, ih]

/-! ### The turns of setup tasks and producers -/

theorem setups (ss : List Task.Setup) (s : Session σ) :
    Session.Alike s (Task.round Scene.executeTurn (ss.map .setup) s).2 ∧
      ∀ turn ∈ all (ss.map .setup) s, turn.made = [] := by
  induction ss generalizing s with
  | nil => exact ⟨.refl s, by simp [all]⟩
  | cons t ss ih =>
      obtain ⟨ha, hturns⟩ := ih (Scene.executeTurn (.setup t) s).2
      refine ⟨Session.Alike.trans ?_ ha, ?_⟩
      · exact ⟨rfl, rfl, rfl⟩
      · intro turn hturn
        rcases List.mem_cons.mp hturn with rfl | hturn
        · exact made_eq (by rw [Task.execute_setup]; simp)
        · exact hturns turn hturn

theorem tasks_setups (ss : List Task.Setup) (s : Session σ) :
    (Task.round Scene.executeTurn (ss.map .setup) s).1 = ss.map .setup := by
  induction ss generalizing s with
  | nil => rfl
  | cons t ss ih => rw [List.map_cons, Task.round, ih]; rfl

theorem tasks_producers (ps : List Task.Producer) (s : Session σ) :
    ∃ ps' : List Task.Producer,
      (Task.round Scene.executeTurn (ps.map .producer) s).1 = ps'.map .producer := by
  induction ps generalizing s with
  | nil => exact ⟨[], rfl⟩
  | cons p ps ih =>
      obtain ⟨ps', hps⟩ := ih (Scene.executeTurn (.producer p) s).2
      exact ⟨(p.execute (Scene.announce "execute" (.producer p) s)).1 :: ps', by
        rw [List.map_cons, Task.round, hps]; rfl⟩

theorem producer (p : Task.Producer) (s : Session σ) : ∃ made,
    (Scene.executeTurn (.producer p) s).2.history = s.history ++ made ∧
      Turn.made ⟨.producer p, Scene.announce "execute" (.producer p) s⟩ = made ∧
      p.Adds s (Scene.executeTurn (.producer p) s).2 made := by
  obtain ⟨made, hm, hadds⟩ := p.execute_adds (Scene.announce "execute" (.producer p) s)
  refine ⟨made, hm, made_eq hm, ?_⟩
  cases hadds with
  | nothing hc => exact .nothing hc
  | writes asked hb up hc hcs => exact .writes asked hb up hc hcs
  | clears asked hb down hc hcs => exact .clears asked hb down hc hcs

theorem device_producers {P : σ → Prop} (keep : CommandsKeep P) (ps : List Task.Producer)
    (s : Session σ) (hs : P s.device) :
    P (Task.round Scene.executeTurn (ps.map .producer) s).2.device := by
  induction ps generalizing s with
  | nil => exact hs
  | cons p ps ih => exact ih _ (p.device_execute _ keep hs)

theorem resolve (r : Task.Resolve) (s : Session σ) : ∃ made,
    (Scene.executeTurn (.resolve r) s).2.history = s.history ++ made ∧
      Turn.made ⟨.resolve r, Scene.announce "execute" (.resolve r) s⟩ = made ∧
      r.Adds s (Scene.executeTurn (.resolve r) s).2 made := by
  obtain ⟨made, hm, hadds⟩ := r.execute_adds (Scene.announce "execute" (.resolve r) s)
  refine ⟨made, hm, made_eq hm, ?_⟩
  cases hadds with
  | idle hr hc => exact .idle hr hc
  | nothing hr hc => exact .nothing hr hc
  | draws hr hc => exact .draws hr hc

theorem filled_producers (ps : List Task.Producer) (s : Session σ) :
    s.Filled (Task.round Scene.executeTurn (ps.map .producer) s).2
      (allMade (all (ps.map .producer) s)) := by
  induction ps generalizing s with
  | nil => exact .refl s
  | cons p ps ih =>
      obtain ⟨made, hh, hmade, hadds⟩ := producer p s
      have hfirst : s.Filled (Scene.executeTurn (.producer p) s).2 made := .of_adds hh hadds
      have hrest := ih (Scene.executeTurn (.producer p) s).2
      simp only [List.map_cons, all, allMade, List.flatMap_cons, hmade]
      exact hfirst.trans hrest

theorem requested_of_cleared (ps : List Task.Producer) (s : Session σ)
    (down : s.context.hasFlag .clearedFlag = false)
    (up : (Task.round Scene.executeTurn (ps.map .producer) s).2.context.hasFlag .clearedFlag = true) :
    ∃ p ∈ ps, p.requested = true := by
  induction ps generalizing s with
  | nil => rw [show s.context.hasFlag .clearedFlag = true from up] at down; cases down
  | cons p ps ih =>
      obtain ⟨made, -, -, hadds⟩ := producer p s
      cases hadds with
      | nothing hc =>
          obtain ⟨q, hq, asked⟩ := ih (Scene.executeTurn (.producer p) s).2 (by rw [hc, down]) up
          exact ⟨q, List.mem_cons_of_mem _ hq, asked⟩
      | writes asked => exact ⟨p, by simp, asked⟩
      | clears asked => exact ⟨p, by simp, asked⟩

/-- A producer calls its own writer, once at most, and only if it asked for the buffers. -/
theorem writes_producers (ps : List Task.Producer) (s : Session σ) :
    ∀ turn ∈ all (ps.map .producer) s, turn.made.countP (·.event.isWrite) ≤ 1 ∧
      ∀ m ∈ turn.made, m.event.isWrite = true →
        ∃ p b, turn.task = .producer p ∧ p.requested = true ∧ m.event = .wrote p.name b := by
  induction ps generalizing s with
  | nil => simp [all]
  | cons p ps ih =>
      intro turn hturn
      rcases List.mem_cons.mp hturn with rfl | hturn
      · obtain ⟨made, -, hmade, hadds⟩ := producer p s
        obtain ⟨hcount, hown⟩ := hadds.writes_once
        rw [hmade]
        refine ⟨hcount, fun m hm hw => ?_⟩
        obtain ⟨asked, b, he⟩ := hown m hm hw
        exact ⟨p, b, rfl, asked, he⟩
      · exact ih _ turn hturn

end Turn

namespace Scene
variable [CommandSink σ]

/-- The turns in which the tasks of a scene are executed. -/
def turns (scene : Scene σ) : List (Turn σ) := Turn.all scene.scheduled scene.session

/-- The execution of a frame: nothing comes of the setup, the producers take their turns, and the task
that resolves takes the last one. -/
theorem Formed.executed {scene : Scene σ} (h : scene.Formed) {ss : List Task.Setup}
    {ps : List Task.Producer} {r : Task.Resolve}
    (ht : scene.scheduled = ss.map .setup ++ ps.map .producer ++ [.resolve r]) : ∃ t u,
      Session.Alike scene.session t ∧ u = (Task.round executeTurn (ps.map .producer) t).2 ∧
      scene.turns = Turn.all (ss.map .setup) scene.session ++ Turn.all (ps.map .producer) t ++
        [⟨.resolve r, announce "execute" (.resolve r) u⟩] ∧
      (∀ turn ∈ Turn.all (ss.map .setup) scene.session, turn.made = []) ∧
      scene.execute.session = (executeTurn (.resolve r) u).2 ∧ scene.execute.resolves = [r] := by
  obtain ⟨ha, hmade⟩ := Turn.setups ss scene.session
  obtain ⟨halike, hs, htasks⟩ := h.execute
  refine ⟨_, _, ha, rfl, ?_, hmade, ?_, ?_⟩
  · rw [turns, ht, Turn.all_append, Turn.all_append, Task.round_append]
    rfl
  · rw [hs, ht, Task.round_append, Task.round_append]
    rfl
  · rw [ht, Task.round_append, Task.round_append, Turn.tasks_setups] at htasks
    obtain ⟨ps', hps⟩ := Turn.tasks_producers ps
      (Task.round executeTurn (ss.map .setup) scene.session).2
    rw [hps] at htasks
    exact ((h.congr halike).kinds_of_scheduled htasks).2.2

end Scene

end Transparency
