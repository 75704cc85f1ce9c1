import Mathlib.Data.List.Induction
import Transparency.Proofs.Scene.Recipe
import Transparency.Proofs.Task.Turns

/-!
# Nothing is written to a counter that was not cleared

In whatever order tasks are prepared and executed, and whichever device calls fail: when a writer is
called, the whole counter was cleared, and no buffer was touched and nothing resolved since.
-/

namespace Transparency
open Buffer (Handle)
open Device (Registry Features LawfulRegistry Recorder RecordedBuffer Faulty FaultPlan)
open Fragment (Buffers Bundle Writer Keeps)
open Transparency.Frame (Session Moment Event Context counterClearValue)
open Transparency.Frame.Session (Stocks Performs Alike)

/-! ## What the history tells about a counter -/

/-- A moment at which a whole counter was set to the clear value; it had room for `n` elements. -/
def ClearsAll (counter : Handle) (n : Nat) (m : Moment (Faulty Recorder)) : Prop :=
  m.event = .filled counter counterClearValue ∧ ∃ held : RecordedBuffer,
    m.device.device.buffer? counter = some held ∧ held.capacity = n ∧
      held.contents = .filled counterClearValue n

theorem clearsAll_of_fill {s t : Session (Faulty Recorder)} {counter : Handle}
    (hf : s.fill counter counterClearValue = (.ok (), t)) :
    ∃ n, t.room counter = some n ∧
      ClearsAll counter n ⟨.filled counter counterClearValue, t.device⟩ := by
  obtain ⟨hr, hd, -, -⟩ := Session.of_absorb_ok hf
  obtain ⟨hdone, hdevice⟩ := Faulty.of_attempt_ok hr
  obtain ⟨b, -, hb⟩ := Recorder.of_fill_ok hdone
  have held : t.device.device.buffer? counter =
      some { b with contents := .filled counterClearValue b.capacity } := by
    rw [hd]
    apply Eq.trans (congrArg (fun d : Recorder => d.buffer? counter) (hdevice.trans hb))
    exact Recorder.buffer?_update_self _ _ _ _
  refine ⟨b.capacity, ?_, rfl, _, held, rfl, rfl⟩
  show (t.device.device.buffer? counter).map (·.capacity) = some b.capacity
  rw [held]
  rfl

/-- A counter was cleared, and since then no buffer was made, resized, uploaded to or given back, and
nothing was resolved. -/
def ClearedSince (counter : Handle) (n : Nat) (history : List (Moment (Faulty Recorder))) : Prop :=
  ∃ earlier clear later, history = earlier ++ clear :: later ∧ ClearsAll counter n clear ∧
    ∀ m ∈ later, m.event.isStock = false ∧ m.event.isResolve = false

/-- Each time that a writer was called, the counter that it was given was there, and cleared with all the
room that it had. -/
def ClearedBeforeWrites (history : List (Moment (Faulty Recorder))) : Prop :=
  ∀ before m after, history = before ++ m :: after → ∀ task b, m.event = .wrote task b →
    ∃ n, Registry.capacity? m.device b.counter = some n ∧ ClearedSince b.counter n before

section
variable {counter : Handle} {n : Nat} {history made : List (Moment (Faulty Recorder))}
  {m : Moment (Faulty Recorder)}

theorem ClearedSince.append (h : ClearedSince counter n history)
    (quiet : ∀ m ∈ made, m.event.isStock = false ∧ m.event.isResolve = false) :
    ClearedSince counter n (history ++ made) := by
  obtain ⟨earlier, clear, later, rfl, hclear, hlater⟩ := h
  refine ⟨earlier, clear, later ++ made, by simp, hclear, ?_⟩
  intro x hx
  rcases List.mem_append.mp hx with old | new
  · exact hlater x old
  · exact quiet x new

theorem ClearedBeforeWrites.concat (h : ClearedBeforeWrites history)
    (hm : ∀ task b, m.event = .wrote task b →
      ∃ n, Registry.capacity? m.device b.counter = some n ∧ ClearedSince b.counter n history) :
    ClearedBeforeWrites (history ++ [m]) := by
  intro before x after he
  rcases List.eq_nil_or_concat after with rfl | ⟨rest, y, rfl⟩
  · obtain ⟨rfl, hx⟩ := List.append_inj' he rfl
    cases hx
    exact hm
  · -- the moment is an earlier one, and the last one plays no part
    rw [List.concat_eq_append, ← List.cons_append, ← List.append_assoc] at he
    exact h before x rest (List.append_inj' he rfl).1

theorem ClearedBeforeWrites.append (h : ClearedBeforeWrites history)
    (quiet : ∀ m ∈ made, m.event.isWrite = false) : ClearedBeforeWrites (history ++ made) := by
  induction made using List.reverseRecOn with
  | nil => simpa using h
  | append_singleton made m ih =>
      rw [← List.append_assoc]
      apply (ih fun x hx => quiet x (List.mem_append_left _ hx)).concat
      intro task b he
      have hq := quiet m (by simp)
      rw [he] at hq
      cases hq

end

/-! ## What holds of the session between any two calls -/

/-- The counter of the context is there, and it was cleared since the last change if its flag is up. -/
structure Tracked (s : Session (Faulty Recorder)) : Prop where
  sound : s.Sound
  published : ∀ h, s.context.buffer? .counterBuffer = some h → (s.room h).isSome
  cleared : s.context.hasFlag .clearedFlag = true → ∃ h n,
    s.context.buffer? .counterBuffer = some h ∧ s.room h = some n ∧ ClearedSince h n s.history
  written : ClearedBeforeWrites s.history

namespace Tracked
variable {s t : Session (Faulty Recorder)}

theorem alike (h : Tracked s) (ha : Alike s t) : Tracked t where
  sound := ha.sound h.sound
  published := by rw [ha.context, ha.room]; exact h.published
  cleared := by rw [ha.context, ha.room, ha.history]; exact h.cleared
  written := by rw [ha.history]; exact h.written

/-- A change of the context, if it neither raises the flag nor puts in a counter that is not there. -/
theorem withContext (h : Tracked s) {c : Context}
    (hp : ∀ x, c.buffer? .counterBuffer = some x → (s.room x).isSome)
    (hc : c.hasFlag .clearedFlag = true → s.context.hasFlag .clearedFlag = true ∧
      c.buffer? .counterBuffer = s.context.buffer? .counterBuffer) :
    Tracked (s.withContext c) where
  sound := h.sound
  published := hp
  cleared up := by
    obtain ⟨hup, same⟩ := hc up
    obtain ⟨x, n, hx, hn, hs⟩ := h.cleared hup
    exact ⟨x, n, same.trans hx, hn, hs⟩
  written := h.written

theorem dropFlag (h : Tracked s) (k : Frame.Key) : Tracked (s.withContext (s.context.dropFlag k)) :=
  h.withContext (fun x hx => h.published x (by simpa using hx)) fun up => by
    rw [Context.hasFlag_dropFlag] at up
    split at up
    · cases up
    · exact ⟨up, by simp⟩

theorem performs (h : Tracked s) (hp : Performs s t) : Tracked t := by
  obtain ⟨made, hm, quiet⟩ := hp.history
  refine ⟨hp.sound h.sound, ?_, ?_, ?_⟩
  · rw [hp.context, hp.room]; exact h.published
  · intro up
    rw [hp.context] at up ⊢
    obtain ⟨x, n, hx, hn, hs⟩ := h.cleared up
    refine ⟨x, n, hx, by rw [hp.room, hn], ?_⟩
    rw [hm]
    exact hs.append fun m hmem =>
      have hq := Event.of_isCommand (quiet m hmem)
      ⟨hq.1, hq.2.2.2⟩
  · rw [hm]
    exact h.written.append fun m hmem => (Event.of_isCommand (quiet m hmem)).2.2.1

/-- Buffers may come and go while the flag is down. -/
theorem stocks (h : Tracked s) (hs : Stocks s t) (down : t.context.hasFlag .clearedFlag = false)
    (hp : ∀ x, t.context.buffer? .counterBuffer = some x → (t.room x).isSome) : Tracked t := by
  obtain ⟨made, hm, hmade⟩ := hs.history
  refine ⟨hs.sound h.sound, hp, by simp [down], ?_⟩
  rw [hm]
  exact h.written.append fun m hmem => (Event.of_isStock (hmade m hmem)).2.1

theorem note (h : Tracked s) (e : Event) (write : e.isWrite = false) (stock : e.isStock = false)
    (resolve : e.isResolve = false ∨ s.context.hasFlag .clearedFlag = false) : Tracked (s.note e) where
  sound := h.sound
  published := h.published
  cleared up := by
    rcases resolve with resolve | down
    · obtain ⟨x, n, hx, hn, hs⟩ := h.cleared up
      refine ⟨x, n, hx, hn, hs.append fun m hm => ?_⟩
      rw [List.mem_singleton.mp hm]
      exact ⟨stock, resolve⟩
    · rw [show s.context.hasFlag .clearedFlag = true from up] at down
      cases down
  written := h.written.append fun m hm => by rw [List.mem_singleton.mp hm]; exact write

/-- After a clear that succeeds, the counter of the context was cleared since the last change. -/
theorem clearCounter (h : Tracked s) (hc : s.clearCounter = (.ok (), t)) :
    Tracked t ∧ t.context.hasFlag .clearedFlag = true ∧
      t.context.buffer? .counterBuffer = s.context.buffer? .counterBuffer := by
  rcases Session.of_clearCounter_ok hc with ⟨up, rfl⟩ | ⟨-, counter, u, hb, hf, hd, hctx, hh⟩
  · exact ⟨h, up, rfl⟩
  · obtain ⟨n, hn, hall⟩ := clearsAll_of_fill hf
    have hu : Tracked u := by
      have hp := (Performs.refl s).fill counter counterClearValue
      rw [hf] at hp
      exact h.performs hp
    have hbt : t.context.buffer? .counterBuffer = some counter := by rw [hctx]; simpa using hb
    have hrt : t.room = u.room := Session.room_of_device hd
    refine ⟨⟨?_, ?_, fun _ => ⟨counter, n, hbt, by rw [hrt, hn], ?_⟩, ?_⟩, ?_, hbt.trans hb.symm⟩
    · rw [Session.Sound, hd]; exact hu.sound
    · intro x hx
      rw [hbt] at hx
      cases hx
      rw [hrt, hn]; rfl
    · exact ⟨s.history, _, _, hh, hall, by simp [Event.isStock, Event.isResolve]⟩
    · rw [hh]
      apply h.written.append
      intro m hm
      rcases List.mem_cons.mp hm with rfl | hm
      · rfl
      · rw [List.mem_singleton.mp hm]; rfl
    · rw [hctx]; simp

/-! ## What holds of the session after any call -/

variable (p : Task.Producer) (r : Task.Resolve)

theorem execute_producer (h : Tracked s) : Tracked (p.execute s).2 := by
  rcases p.execute_cases s with ⟨-, hp, -⟩ | ⟨-, b, u, hb, hc, -, hp⟩
  · exact h.performs hp
  · obtain ⟨hu, up, same⟩ := h.clearCounter hc
    obtain ⟨x, n, hx, hn, hs⟩ := hu.cleared up
    have hx' : x = b.counter := by
      rw [same, Buffers.counter_of_ofContext? hb] at hx
      exact (Option.some.inj hx).symm
    subst hx'
    have hw : Tracked (u.note (.wrote p.name b)) := by
      refine ⟨hu.sound, hu.published, fun _ => ⟨_, n, hx, hn, hs.append ?_⟩, ?_⟩
      · intro m hm
        rw [List.mem_singleton.mp hm]
        exact ⟨rfl, rfl⟩
      · apply hu.written.concat
        intro task b' he
        cases he
        exact ⟨n, hn, hs⟩
    exact hw.performs hp

theorem takeDown (h : Tracked s) : Tracked (Task.Resolve.takeDown s) :=
  (h.dropFlag .requestFlag).dropFlag .clearedFlag

theorem execute_resolve (h : Tracked s) : Tracked (r.execute s) := by
  cases hr : s.context.hasFlag .requestFlag with
  | false => exact h.alike (r.execute_of_idle s hr)
  | true =>
      rw [r.execute_of_requested s hr]
      split
      · rcases r.drawPass_cases (Task.Resolve.takeDown s) with ⟨hp, -⟩ | ⟨pass, b, u, -, hd, he⟩
        · exact h.takeDown.performs hp
        · have hp := (Performs.refl (Task.Resolve.takeDown s)).draw (r.resolveDraw pass b)
          rw [hd] at hp
          rw [he]
          refine (h.takeDown.performs hp).note _ rfl rfl (Or.inr ?_)
          rw [hp.context]
          simp [Task.Resolve.takeDown, Session.withContext]
      · exact h.takeDown

theorem prepare_resolve (h : Tracked s) (held : r.bundle.Held s) : Tracked (r.prepare s).2 ∧
    Keeps s (r.prepare s).2 ∧ (r.prepare s).1.bundle.Held (r.prepare s).2 := by
  obtain ⟨hk, hheld⟩ := r.prepare_keeps s h.sound held
  refine ⟨?_, hk, hheld⟩
  cases hn : r.isNeeded s.context with
  | false => exact h.alike (r.prepare_of_not_isNeeded s hn).2
  | true =>
      -- the counter is the one of before, or the one of the bundle
      rcases r.prepare_context_of_isNeeded s hn with hc | ⟨b, hb, hc⟩
      · refine h.stocks (r.prepare_stocks s) ?_ fun x hx => hk x (h.published x ?_)
        · rw [hc]; simp [Task.Resolve.unclear, Session.withContext]
        · rw [hc] at hx
          simpa [Task.Resolve.unclear, Session.withContext] using hx
      · refine h.stocks (r.prepare_stocks s) ?_ fun x hx => ?_
        · rw [hc]; simp [Task.Resolve.unclear, Session.withContext, Frame.Key.fragmentBuffers]
        · rw [hc, Buffers.buffer?_publish_counter] at hx
          cases hx
          exact (hheld b hb).live _ b.counter_mem_toList

end Tracked

/-! ## Any calls, in any order -/

namespace Scene

/-- What holds of a scene between any two calls. -/
structure Tracked (scene : Scene (Faulty Recorder)) : Prop where
  session : Transparency.Tracked scene.session
  held : ∀ r, Task.resolve r ∈ scene.tasks → r.bundle.Held scene.session
  known : ∀ p, Task.probe p ∉ scene.tasks

/-- A call keeps it, if it keeps it for the task that is called, and no buffer is lost. -/
theorem Tracked.step {scene : Scene (Faulty Recorder)} (h : scene.Tracked) (index : Nat)
    {act : Task → Session (Faulty Recorder) → Task × Session (Faulty Recorder)}
    (kept : ∀ task ∈ scene.tasks, Transparency.Tracked (act task scene.session).2 ∧
      Keeps scene.session (act task scene.session).2 ∧
      (∀ r, (act task scene.session).1 = .resolve r → r.bundle.Held (act task scene.session).2) ∧
      ∀ p, (act task scene.session).1 ≠ .probe p) : (scene.step index act).Tracked := by
  rcases scene.step_cases index act with he | ⟨task, ht, he⟩
  · rw [he]; exact h
  · rw [he]
    obtain ⟨hs, hk, hheld, hprobe⟩ := kept task (List.mem_of_getElem? ht)
    refine ⟨hs, fun r hr => ?_, fun p hp => ?_⟩
    · rcases List.mem_or_eq_of_mem_set hr with old | new
      · exact (h.held r old).keeps hk
      · exact hheld r new.symm
    · rcases List.mem_or_eq_of_mem_set hp with old | new
      · exact h.known p old
      · exact hprobe p new.symm

variable {scene : Scene (Faulty Recorder)}

theorem Tracked.prepareTask (h : scene.Tracked) (index : Nat) : (scene.prepareTask index).Tracked := by
  apply h.step index
  intro task ht
  cases task with
  | setup task =>
      rw [Task.prepare_setup]
      refine ⟨h.session.withContext (fun x hx => ?_) fun up => ?_, .of_eq rfl, by simp, by simp⟩
      · exact h.session.published x (by simpa [Task.Setup.prepare] using hx)
      · simpa [Task.Setup.prepare] using up
  | producer task =>
      rw [Task.prepare_producer]
      refine ⟨h.session.withContext (fun x hx => ?_) fun up => ?_, .of_eq rfl, by simp, by simp⟩
      · apply h.session.published x
        split at hx <;> simpa [Context.request] using hx
      · split at up <;> rename_i wants
        · simpa [wants, Context.request] using up
        · simpa [wants] using up
  | resolve task =>
      rw [Task.prepare_resolve]
      obtain ⟨hs, hk, hheld⟩ := h.session.prepare_resolve task (h.held task ht)
      exact ⟨hs, hk, fun r hr => by cases hr; exact hheld, by simp⟩
  | probe task => exact absurd ht (h.known task)

theorem Tracked.executeTask (h : scene.Tracked) (index : Nat) : (scene.executeTask index).Tracked := by
  apply h.step index
  intro task ht
  cases task with
  | setup task =>
      rw [Task.execute_setup]
      exact ⟨h.session, .of_eq rfl, by simp, by simp⟩
  | producer task =>
      rw [Task.execute_producer]
      exact ⟨h.session.execute_producer task, .of_eq (task.room_execute _), by simp, by simp⟩
  | resolve task =>
      rw [Task.execute_resolve]
      have hk : Keeps scene.session (task.execute scene.session) := .of_eq (task.room_execute _)
      refine ⟨h.session.execute_resolve task, hk, fun r hr => ?_, by simp⟩
      cases hr
      exact (h.held _ ht).keeps hk
  | probe task => exact absurd ht (h.known task)

theorem Tracked.edit (h : scene.Tracked) (index : Nat) (writer : Writer) :
    (scene.edit index (Task.withWriter writer)).Tracked := by
  apply h.step index
  intro task ht
  cases task with
  | setup task => exact ⟨h.session, .of_eq rfl, by simp [Task.withWriter], by simp [Task.withWriter]⟩
  | producer task => exact ⟨h.session, .of_eq rfl, by simp [Task.withWriter], by simp [Task.withWriter]⟩
  | resolve task =>
      refine ⟨h.session, .of_eq rfl, fun r hr => ?_, by simp [Task.withWriter]⟩
      cases hr
      exact h.held _ ht
  | probe task => exact absurd ht (h.known task)

theorem Tracked.clearContext (h : scene.Tracked) : scene.clearContext.Tracked where
  session := h.session.withContext (by simp) (by simp)
  held r hr := (h.held r hr).keeps (.of_eq rfl)
  known := h.known

/-- A call on a task of a scene, or on the frame context. -/
inductive Call
  | prepare (index : Nat)
  | execute (index : Nat)
  | clear
  /-- From now on the task has this work, and adds it in this way. -/
  | employ (index : Nat) (writer : Writer)

/-- Makes a call. -/
def make (scene : Scene (Faulty Recorder)) : Call → Scene (Faulty Recorder)
  | .prepare index => scene.prepareTask index
  | .execute index => scene.executeTask index
  | .clear => scene.clearContext
  | .employ index writer => scene.edit index (Task.withWriter writer)

/-- New tasks, and a new device of which some calls fail. -/
def start (recipes : List Task.Recipe) (features : Features) (plan : FaultPlan) :
    Scene (Faulty Recorder) :=
  { tasks := recipes.map Task.Recipe.make, session := { device := { device := { features }, plan } } }

theorem tracked_start (recipes : List Task.Recipe) (features : Features) (plan : FaultPlan) :
    (start recipes features plan).Tracked where
  session := ⟨fun id live => by simp [start, Table.get?_empty] at live, by simp [start],
    by simp [start], by simp [start, ClearedBeforeWrites]⟩
  held r hr := by
    obtain ⟨recipe, -, he⟩ := List.mem_map.mp hr
    cases recipe <;> cases he
    exact Bundle.held_empty _
  known p hp := by
    obtain ⟨recipe, -, he⟩ := List.mem_map.mp hp
    cases recipe <;> cases he

theorem Tracked.make (h : scene.Tracked) (call : Call) : (scene.make call).Tracked := by
  cases call with
  | prepare index => exact h.prepareTask index
  | execute index => exact h.executeTask index
  | clear => exact h.clearContext
  | employ index writer => exact h.edit index writer

theorem Tracked.foldl_make (h : scene.Tracked) (calls : List Call) :
    (calls.foldl Scene.make scene).Tracked := by
  induction calls generalizing scene with
  | nil => exact h
  | cons call calls ih => exact ih (h.make call)

/-- Whatever is called in whatever order, and whatever of it fails: no writer is given a counter that was
not cleared since the last change. -/
theorem cleared_before_writes (recipes : List Task.Recipe) (features : Features) (plan : FaultPlan)
    (calls : List Call) :
    ClearedBeforeWrites (calls.foldl make (start recipes features plan)).session.history :=
  ((tracked_start recipes features plan).foldl_make calls).session.written

-- a frame in which the writer is called
example : ([.prepare 0, .prepare 1, .execute 0].foldl make
    (start [.producer "glass" {} { write := fun _ => .done (.ok ()) }, .resolve "resolve" {}]
      .all fun _ _ => none)).session.history.any (·.event.isWrite) = true := by
  rfl

end Scene

end Transparency
