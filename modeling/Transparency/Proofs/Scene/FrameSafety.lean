import Transparency.Proofs.Scene.Course

/-!
# What a frame never does

Whatever fails in a frame, and whatever was left by the frames before: the counter is cleared once at
most, and before anything is written; what resolves comes last; buffers are kept before the first task is
executed; and no flag is left behind.
-/

namespace Transparency
open Device (Registry CommandSink)
open Transparency.Frame (Session Moment Event)

variable {σ : Type}

namespace Scene

/-- What comes after a clear that comes first has the clear before it. -/
theorem exists_clear {counter : Buffer.Handle} {d : σ} {v : Int32} {rest before after : List (Moment σ)}
    {m : Moment σ} (hm : m.event.isWrite = true)
    (h : ⟨.filled counter v, d⟩ :: ⟨.cleared counter, d⟩ :: rest = before ++ m :: after) :
    ∃ c ∈ before, c.event.isClear = true := by
  match before, h with
  | [], h => cases h; cases hm
  | [_], h => cases h; cases hm
  | _ :: c :: _, h =>
      cases h
      exact ⟨_, List.mem_cons_of_mem _ (List.mem_cons_self ..), rfl⟩

variable [Registry σ] [CommandSink σ]

/-- What a frame never does. -/
structure SafeFrame (scene : Scene σ) : Prop where
  /-- Being prepared, the tasks do nothing but keep buffers. -/
  prepares : ∃ made, scene.prepared.session.history = scene.session.history ++ made ∧
    ∀ m ∈ made, m.event.isStock = true
  executes : scene.runFrame.session.history =
    scene.prepared.session.history ++ Turn.allMade scene.prepared.turns
  /-- Being executed, they never touch a buffer. -/
  stockless : ∀ m ∈ Turn.allMade scene.prepared.turns, m.event.isStock = false
  clearsOnce : (Turn.allMade scene.prepared.turns).countP (·.event.isClear) ≤ 1
  /-- The producers take their turns in the order in which they were added. -/
  inOrder : scene.prepared.turns.filterMap (·.task.producer?) = scene.producers.map (·.asked)
  /-- Only a producer that asked for the buffers calls its writer, and does so once at most. -/
  writesOnce : ∀ turn ∈ scene.prepared.turns, turn.made.countP (·.event.isWrite) ≤ 1 ∧
    ∀ m ∈ turn.made, m.event.isWrite = true →
      ∃ p b, turn.task = .producer p ∧ p.requested = true ∧ m.event = .wrote p.name b
  clearsFirst : ∀ before m after, Turn.allMade scene.prepared.turns = before ++ m :: after →
    m.event.isWrite = true → ∃ c ∈ before, c.event.isClear = true
  /-- The task that resolves comes last, and draws once at most, if any task asked for the buffers. -/
  resolvesLast : ∃ front last r, scene.prepared.turns = front ++ [last] ∧ last.task = .resolve r ∧
    (∀ turn ∈ front, ∀ m ∈ turn.made, m.event.isResolve = false) ∧
    (last.made = [] ∨ (∃ p ∈ scene.producers, p.wants = true) ∧ ∃ draw d,
      last.made = [⟨.drew draw, d⟩, ⟨.resolved r.name draw, d⟩])
  flagsDown : scene.runFrame.session.context.hasFlag .requestFlag = false ∧
    scene.runFrame.session.context.hasFlag .clearedFlag = false

namespace Course
variable {scene : Scene σ} {r : Task.Resolve} (course : scene.Course r)
include course

/-- The last turn neither touches a buffer, nor clears, nor writes anything. -/
theorem quiet_last : ∀ m ∈ course.last,
    m.event.isStock = false ∧ m.event.isClear = false ∧ m.event.isWrite = false := by
  have hadds := course.last_adds
  cases hl : course.last with
  | nil => simp
  | cons m rest =>
      rw [hl] at hadds
      cases hadds with
      | draws => simp [Event.isStock, Event.isClear, Event.isWrite]

theorem clears_once (down : scene.session.context.hasFlag .clearedFlag = false) :
    (course.added ++ course.last).countP (·.event.isClear) ≤ 1 := by
  have hlast : course.last.countP (·.event.isClear) = 0 :=
    List.countP_eq_zero.mpr fun m hm => by simp [(course.quiet_last m hm).2.1]
  rw [List.countP_append, hlast]
  rcases course.filled.uncleared (course.clearedFlag_start down) with
    ⟨-, hadded⟩ | ⟨-, counter, d, rest, hadded, hrest⟩
  · simp [hadded]
  · have hrest : rest.countP (·.event.isClear) = 0 :=
      List.countP_eq_zero.mpr fun m hm => by simp [hrest m hm]
    rw [hadded, List.countP_cons, List.countP_cons, hrest]
    simp [Event.isClear]

theorem clears_first (down : scene.session.context.hasFlag .clearedFlag = false)
    {before after : List (Moment σ)} {m : Moment σ} (hm : m.event.isWrite = true)
    (h : course.added ++ course.last = before ++ m :: after) :
    ∃ c ∈ before, c.event.isClear = true := by
  rcases course.filled.uncleared (course.clearedFlag_start down) with
    ⟨-, hadded⟩ | ⟨-, counter, d, rest, hadded, -⟩
  · -- nothing is written in the last turn
    rw [hadded, List.nil_append] at h
    have hmem : m ∈ course.last := by rw [h]; simp
    rw [(course.quiet_last m hmem).2.2] at hm
    cases hm
  · rw [hadded] at h
    exact exists_clear hm h

theorem quiet_front : ∀ turn ∈ Turn.all (scene.setups.map .setup) scene.prepared.session ++
    Turn.all (course.producers.map .producer) course.start,
    ∀ m ∈ turn.made, m.event.isResolve = false := by
  intro turn hturn m hm
  rcases List.mem_append.mp hturn with hturn | hturn
  · rw [course.setups turn hturn] at hm; cases hm
  · exact (course.filled.quiet m (List.mem_flatMap.mpr ⟨turn, hturn, hm⟩)).2

theorem writes_once : ∀ turn ∈ scene.prepared.turns, turn.made.countP (·.event.isWrite) ≤ 1 ∧
    ∀ m ∈ turn.made, m.event.isWrite = true →
      ∃ p b, turn.task = .producer p ∧ p.requested = true ∧ m.event = .wrote p.name b := by
  intro turn hturn
  rw [course.turns, List.mem_append, List.mem_append] at hturn
  rcases hturn with (hturn | hturn) | hturn
  · rw [course.setups turn hturn]; simp
  · exact Turn.writes_producers _ _ turn hturn
  · rw [List.mem_singleton.mp hturn, course.last_made]
    refine ⟨?_, fun m hm hw => ?_⟩
    · rw [List.countP_eq_zero.mpr fun m hm => by simp [(course.quiet_last m hm).2.2]]
      exact Nat.zero_le 1
    · rw [(course.quiet_last m hm).2.2] at hw; cases hw

/-- No flag is left, whether the frame came to its resolve or not. -/
theorem flags_down (request : scene.session.context.hasFlag .requestFlag = false)
    (cleared : scene.session.context.hasFlag .clearedFlag = false) :
    scene.runFrame.session.context.hasFlag .requestFlag = false ∧
      scene.runFrame.session.context.hasFlag .clearedFlag = false := by
  have hadds := course.last_adds
  have taken : scene.runFrame.session.context =
      (Task.Resolve.takeDown course.finish).context →
      scene.runFrame.session.context.hasFlag .requestFlag = false ∧
        scene.runFrame.session.context.hasFlag .clearedFlag = false := by
    intro hc
    rw [hc]
    simp [Task.Resolve.takeDown, Session.withContext]
  generalize course.last = last at hadds
  cases hadds with
  | nothing _ hc => exact taken hc
  | draws _ hc => exact taken hc
  | idle idle hc =>
      rw [hc]
      refine ⟨idle, ?_⟩
      -- the counter is cleared for tasks that asked, and then the request flag is up
      by_contra up
      obtain ⟨p, hp, asked⟩ := Turn.requested_of_cleared _ _ (course.clearedFlag_start cleared)
        (Bool.not_eq_false _ ▸ up)
      obtain ⟨q, hq, rfl⟩ := List.mem_map.mp hp
      have raised := course.requestFlag_finish_eq_wants request
      rw [show course.finish.context.hasFlag .requestFlag = false from idle] at raised
      have wants : scene.producers.any (·.wants) = true := List.any_eq_true.mpr ⟨q, hq, asked⟩
      rw [wants] at raised
      cases raised

theorem resolves_last (request : scene.session.context.hasFlag .requestFlag = false) :
    course.last = [] ∨ (∃ p ∈ scene.producers, p.wants = true) ∧ ∃ draw d,
      course.last = [⟨.drew draw, d⟩, ⟨.resolved (r.prepare course.opened).1.name draw, d⟩] := by
  have hadds := course.last_adds
  generalize course.last = last at hadds ⊢
  cases hadds with
  | idle => exact Or.inl rfl
  | nothing => exact Or.inl rfl
  | @draws draw d raised _ =>
      have asked := course.requestFlag_finish_eq_wants request
      rw [show course.finish.context.hasFlag .requestFlag = true from raised] at asked
      exact Or.inr ⟨List.any_eq_true.mp asked.symm, draw, d, rfl⟩

theorem safe (request : scene.session.context.hasFlag .requestFlag = false)
    (cleared : scene.session.context.hasFlag .clearedFlag = false) : scene.SafeFrame where
  prepares := by
    obtain ⟨made, hm, hmade⟩ := (r.prepare_stocks course.opened).history
    refine ⟨made, ?_, hmade⟩
    rw [course.prepared, hm, course.opened_alike.history]
    rfl
  executes := course.history_eq
  stockless m hm := by
    rw [course.allMade_turns] at hm
    rcases List.mem_append.mp hm with hm | hm
    · exact (course.filled.quiet m hm).1
    · exact (course.quiet_last m hm).1
  clearsOnce := by rw [course.allMade_turns]; exact course.clears_once cleared
  inOrder := by
    have htasks : scene.prepared.turns.map Turn.task = scene.prepared.scheduled := Turn.task_all _ _
    have hturns : scene.prepared.turns.filterMap (·.task.producer?) =
        (scene.prepared.turns.map Turn.task).filterMap Task.producer? := by
      rw [List.filterMap_map]
      rfl
    rw [hturns, htasks, course.scheduled]
    simp [List.filterMap_append, List.filterMap_map, Function.comp_def, Task.producer?]
  writesOnce := course.writes_once
  clearsFirst before m after h hm := by
    rw [course.allMade_turns] at h
    exact course.clears_first cleared hm h
  resolvesLast := by
    refine ⟨_, _, _, course.turns, rfl, course.quiet_front, ?_⟩
    rw [course.last_made]
    exact course.resolves_last request
  flagsDown := course.flags_down request cleared

end Course

end Scene

end Transparency
