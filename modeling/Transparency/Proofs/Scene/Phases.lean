import Transparency.Proofs.Graph.Dirty
import Transparency.Proofs.Scene.Rounds

/-!
# The phases of a frame

Tasks are told, prepared and executed stage by stage, each of them once and each phase before the next. What a
task is told depends on nothing but its own part in the graph.
-/

namespace Transparency
open Device (Registry CommandSink)
open Transparency.Frame (Session Event Phase)
open Transparency.Frame.Session (Stocks Performs)
open Transparency.Graph (Stage DirtyBits Notice Change Member Slot members soloBits arrange)

variable {σ : Type}

/-! ## Calls of probes -/

/-- Whether an event is a call of a probe. -/
def Frame.Event.isCall : Event → Bool
  | .probed _ _ | .synced _ _ => true
  | _ => false

/-- The calls of probes, first one first. -/
def Frame.Session.calls (s : Session σ) : List Event := s.events.filter Event.isCall

namespace Frame.Session
variable {s t : Session σ}

theorem calls_of_history {made : List (Frame.Moment σ)} (h : t.history = s.history ++ made)
    (other : ∀ m ∈ made, m.event.isCall = false) : t.calls = s.calls := by
  have none : (made.map (·.event)).filter Event.isCall = [] := by simpa using other
  rw [calls, events, h, List.map_append, List.filter_append, none, List.append_nil, calls, events]

theorem Stocks.calls [Registry σ] (h : Stocks s t) : t.calls = s.calls := by
  obtain ⟨made, hm, hs⟩ := h.history
  refine calls_of_history hm fun m hmem => ?_
  have stock := hs m hmem
  revert stock
  cases m.event <;> simp [Event.isStock, Event.isCall]

theorem Performs.calls [CommandSink σ] (h : Performs s t) : t.calls = s.calls := by
  obtain ⟨made, hm, hs⟩ := h.history
  refine calls_of_history hm fun m hmem => ?_
  have command := hs m hmem
  revert command
  cases m.event <;> simp [Event.isCommand, Event.isCall]

theorem calls_note (s : Session σ) (e : Event) :
    (s.note e).calls = s.calls ++ if e.isCall then [e] else [] := by
  simp only [calls, events, note, List.map_append, List.filter_append, List.map_cons, List.map_nil]
  cases h : e.isCall <;> simp [h]

end Frame.Session

/-! ## What a task does when it is called -/

namespace Task

/-- What is left of the dirty bits after the task looked at them. -/
def keep : Task → DirtyBits → DirtyBits
  | probe task => task.onSync.getD fun _ => .none
  | _ => fun _ => .none

/-- How a look at the dirty bits is recorded. -/
def told? (dirty : DirtyBits) : Task → Option Event
  | probe task => task.onSync.map fun _ => .synced task.name dirty
  | _ => none

/-- How a call in a phase is recorded. -/
def call? (phase : Phase) : Task → Option Event
  | probe task => some (.probed phase task.name)
  | _ => none

theorem sync_fst (task : Task) (dirty : DirtyBits) (s : Session σ) : (task.sync dirty s).1 = task.keep dirty := by
  cases task with
  | probe task => cases h : task.onSync <;> simp [sync, Probe.sync, keep, h]
  | _ => rfl

theorem calls_sync (task : Task) (dirty : DirtyBits) (s : Session σ) :
    (task.sync dirty s).2.calls = s.calls ++ (task.told? dirty).toList := by
  cases task with
  | probe task =>
      cases h : task.onSync with
      | none => simp [sync, Probe.sync, told?, h]
      | some f => simp [sync, Probe.sync, told?, h, Session.calls_note, Event.isCall]
  | setup task => exact (List.append_nil _).symm
  | producer task => exact (List.append_nil _).symm
  | resolve task => exact (List.append_nil _).symm

theorem calls_prepare [Registry σ] (task : Task) (s : Session σ) :
    (task.prepare s).2.calls = s.calls ++ (task.call? .prepare).toList := by
  cases task with
  | probe task => exact s.calls_note (.probed .prepare task.name)
  | setup task => exact (List.append_nil _).symm
  | producer task => exact (List.append_nil _).symm
  | resolve task => exact (task.prepare_stocks s).calls.trans (List.append_nil _).symm

theorem Producer.calls_execute [CommandSink σ] (p : Producer) (s : Session σ) :
    (p.execute s).2.calls = s.calls := by
  rcases p.execute_cases s with ⟨-, hp, -⟩ | ⟨-, b, u, -, hc, -, hp⟩
  · exact hp.calls
  · have cleared : u.calls = s.calls := by
      rcases Session.of_clearCounter_ok hc with ⟨-, rfl⟩ | ⟨-, counter, v, -, -, -, -, hh⟩
      · rfl
      · refine Session.calls_of_history hh fun m hm => ?_
        rcases List.mem_pair.mp hm with rfl | rfl <;> rfl
    rw [hp.calls, Session.calls_note, cleared]
    exact List.append_nil _

theorem Resolve.calls_execute [CommandSink σ] (r : Resolve) (s : Session σ) :
    (r.execute s).calls = s.calls := by
  cases hr : s.context.hasFlag .requestFlag with
  | false => rw [Session.calls, Session.events, (r.execute_of_idle s hr).history]; rfl
  | true =>
      rw [r.execute_of_requested s hr]
      split
      · rcases r.drawPass_cases (takeDown s) with ⟨hp, -⟩ | ⟨pass, b, u, -, hd, he⟩
        · exact hp.calls
        · have hp := (Performs.refl (takeDown s)).draw (r.resolveDraw pass b)
          rw [hd] at hp
          rw [he, Session.calls_note]
          exact (List.append_nil _).trans hp.calls
      · rfl

theorem calls_execute [CommandSink σ] (task : Task) (s : Session σ) :
    (task.execute s).2.calls = s.calls ++ (task.call? .execute).toList := by
  cases task with
  | probe task => exact s.calls_note (.probed .execute task.name)
  | setup task => exact (List.append_nil _).symm
  | producer p => exact (p.calls_execute s).trans (List.append_nil _).symm
  | resolve r => exact (r.calls_execute s).trans (List.append_nil _).symm

theorem call?_prepare [Registry σ] (phase : Phase) (task : Task) (s : Session σ) :
    (task.prepare s).1.call? phase = task.call? phase := by
  cases task <;> rfl

theorem calls_round {act : Task → Session σ → Task × Session σ} {phase : Phase}
    (once : ∀ task s, (act task s).2.calls = s.calls ++ (task.call? phase).toList) (tasks : List Task)
    (s : Session σ) :
    (round act tasks s).2.calls = s.calls ++ tasks.filterMap (Task.call? phase) := by
  induction tasks generalizing s with
  | nil => exact (List.append_nil _).symm
  | cons task tasks ih =>
      rw [round, ih, once, List.append_assoc]
      cases h : task.call? phase <;> simp [h]

theorem call?_round {act : Task → Session σ → Task × Session σ} {phase : Phase}
    (kept : ∀ task s, (act task s).1.call? phase = task.call? phase) (tasks : List Task) (s : Session σ) :
    (round act tasks s).1.filterMap (Task.call? phase) = tasks.filterMap (Task.call? phase) := by
  induction tasks generalizing s with
  | nil => rfl
  | cons task tasks ih => rw [round, List.filterMap_cons, List.filterMap_cons, kept, ih]

end Task

namespace Scene
variable {scene : Scene σ} {changes : List (Change Task)}

/-! ## Telling the tasks what changed -/

/-- What is left of the dirty bits after a look of the task with this number. -/
def keep (tasks : List Task) (index : Nat) (dirty : DirtyBits) : DirtyBits :=
  (tasks[index]?).elim dirty (·.keep dirty)

/-- How the task in a slot is told, if anything is new to it. -/
def told? (tasks : List Task) (slot : Slot Nat) : Option Event :=
  if slot.dirty = .none then none else (tasks[slot.task]?).bind (Task.told? slot.dirty)

theorem syncTask_eq (scene : Scene σ) (index : Nat) (dirty : DirtyBits) :
    (scene.syncTask index dirty).1 = keep scene.tasks index dirty ∧
      (scene.syncTask index dirty).2.tasks = scene.tasks ∧
      (scene.syncTask index dirty).2.session.calls =
        scene.session.calls ++ ((scene.tasks[index]?).bind (Task.told? dirty)).toList := by
  unfold syncTask keep
  cases scene.tasks[index]? with
  | none => exact ⟨rfl, rfl, (List.append_nil _).symm⟩
  | some task => exact ⟨task.sync_fst dirty _, rfl, task.calls_sync dirty _⟩

theorem calls_syncSlots (slots : List (Slot Nat)) (scene : Scene σ) :
    (Graph.syncSlots (fun i dirty scene => Scene.syncTask scene i dirty) slots scene).2.session.calls =
      scene.session.calls ++ slots.filterMap (told? scene.tasks) := by
  induction slots generalizing scene with
  | nil => exact (List.append_nil _).symm
  | cons slot slots ih =>
      simp only [Graph.syncSlots]
      by_cases clean : slot.dirty = .none
      · have silent : told? scene.tasks slot = none := if_pos clean
        rw [if_pos clean, ih, List.filterMap_cons, silent]
      · obtain ⟨-, htasks, hcalls⟩ := scene.syncTask_eq slot.task slot.dirty
        have told : told? scene.tasks slot = (scene.tasks[slot.task]?).bind (Task.told? slot.dirty) :=
          if_neg clean
        rw [if_neg clean, ih, htasks, hcalls, List.append_assoc, List.filterMap_cons, told]
        cases (scene.tasks[slot.task]?).bind (Task.told? slot.dirty) <;> rfl

theorem sync_eq (scene : Scene σ) :
    scene.sync.graph.slots = scene.graph.slots.map (fun slot =>
      { slot with dirty := Notice.sync.heard (keep scene.tasks slot.task) slot.dirty }) ∧
    scene.sync.tasks = scene.tasks ∧
    scene.sync.session.calls = scene.session.calls ++ scene.graph.slots.filterMap (told? scene.tasks) := by
  have looks (i : Nat) (d : DirtyBits) (s : Scene σ) (h : s.tasks = scene.tasks) :
      (Scene.syncTask s i d).1 = keep scene.tasks i d ∧ (Scene.syncTask s i d).2.tasks = scene.tasks := by
    rw [← h]
    exact ⟨(s.syncTask_eq i d).1, (s.syncTask_eq i d).2.1⟩
  obtain ⟨hslots, htasks⟩ := Graph.syncSlots_fst (fun i d s => Scene.syncTask s i d) (keep scene.tasks)
    (fun s => s.tasks = scene.tasks) looks scene.graph.slots rfl
  exact ⟨hslots, htasks, calls_syncSlots scene.graph.slots scene⟩

/-! ## Scenes that change -/

/-- Adds a new task, or tells the tasks of the scene something. -/
def change (scene : Scene σ) : Change Task → Scene σ
  | .add task => { scene with tasks := scene.tasks ++ [task] }.schedule scene.tasks.length
  | .notice (.mark bits) => { scene with graph := scene.graph.markDirty bits }
  | .notice .sync => scene.sync

/-- The place of a task in the graph, with what is new to it. -/
def slotOf (m : Member Task × Nat) : Slot Nat where
  task := m.2
  stage := m.1.task.stage
  dirty := soloBits m.1.task.keep m.1.told

/-- The tasks are those that were added, each at its place and with its own bits. -/
structure Tended (changes : List (Change Task)) (scene : Scene σ) : Prop where
  tasks : scene.tasks = (members changes).map (·.task)
  slots : scene.graph.slots = arrange (·.stage) ((members changes).zipIdx.map slotOf)

theorem zipIdx_told (ms : List (Member Task)) (n : Notice) :
    (ms.map fun m => { m with told := m.told ++ [n] }).zipIdx.map slotOf =
      ms.zipIdx.map fun m => { slotOf m with dirty := n.heard m.1.task.keep (slotOf m).dirty } := by
  rw [List.zipIdx_map, List.map_map]
  refine List.map_congr_left fun m _ => ?_
  simp only [Function.comp_apply, Prod.map, slotOf, Graph.soloBits_concat, id]

theorem Tended.notice (h : scene.Tended changes) {scene' : Scene σ} {n : Notice}
    (keep : Nat → DirtyBits → DirtyBits) (tasks : scene'.tasks = scene.tasks)
    (slots : scene'.graph.slots = scene.graph.slots.map fun slot =>
      { slot with dirty := n.heard (keep slot.task) slot.dirty })
    (own : ∀ m ∈ (members changes).zipIdx, n.heard (keep m.2) (slotOf m).dirty =
      n.heard m.1.task.keep (slotOf m).dirty) :
    scene'.Tended (changes ++ [.notice n]) where
  tasks := by rw [tasks, h.tasks, Graph.members_concat_notice, List.map_map]; rfl
  slots := by
    rw [slots, h.slots, Graph.members_concat_notice, zipIdx_told]
    rw [← Graph.arrange_told, List.map_map]
    refine congrArg _ (List.map_congr_left fun m hm => ?_)
    simpa [slotOf] using own m hm

theorem Tended.change (h : scene.Tended changes) (c : Change Task) :
    (scene.change c).Tended (changes ++ [c]) := by
  cases c with
  | add task =>
      have last : (scene.tasks ++ [task])[scene.tasks.length]? = some task := by simp
      have length : scene.tasks.length = (members changes).length := by rw [h.tasks, List.length_map]
      simp only [Scene.change, schedule, last]
      constructor
      · rw [Graph.members_concat_add, List.map_append, ← h.tasks]
        rfl
      · rw [Graph.slots_add h.slots, Graph.members_concat_add, List.zipIdx_append, List.map_append, length,
          Nat.zero_add]
        rfl
  | notice n =>
      cases n with
      | mark bits => exact h.notice (fun _ d => d) rfl rfl fun _ _ => rfl
      | sync =>
          obtain ⟨hslots, htasks, -⟩ := scene.sync_eq
          refine h.notice (keep scene.tasks) htasks hslots fun m hm => ?_
          have found : scene.tasks[m.2]? = some m.1.task := by
            rw [h.tasks, List.getElem?_map, List.mem_zipIdx_iff_getElem?.mp hm]
            rfl
          rw [show keep scene.tasks m.2 = m.1.task.keep by funext d; rw [keep, found]; rfl]

theorem Tended.foldl_change (before : List (Change Task)) (h : scene.Tended before) :
    (changes.foldl Scene.change scene).Tended (before ++ changes) := by
  induction changes generalizing before scene with
  | nil => simpa using h
  | cons c rest ih => simpa using ih _ (h.change c)

theorem tended_of_changes (s : Session σ) (changes : List (Change Task)) :
    (changes.foldl change ({ session := s } : Scene σ)).Tended changes :=
  Tended.foldl_change [] ⟨rfl, rfl⟩

/-- Whatever happened before, a new task stands last until the graph is sorted by stage. -/
theorem slots_of_changes_add (s : Session σ) (changes : List (Change Task)) (task : Task) :
    let scene := changes.foldl change ({ session := s } : Scene σ)
    (scene.change (.add task)).graph.slots =
      (scene.graph.slots ++ [({ task := scene.tasks.length, stage := task.stage } : Slot Nat)]).mergeSort
        fun a b => a.stage.order ≤ b.stage.order := by
  intro scene
  have last : (scene.tasks ++ [task])[scene.tasks.length]? = some task := by simp
  simp only [Scene.change, schedule, last]
  exact Graph.slots_add_eq_mergeSort (tended_of_changes s changes).slots scene.tasks.length task.stage

/-- The slots are the tasks stage by stage, whatever is read off them. -/
theorem Tended.map_slots {α : Type} (h : scene.Tended changes) {g : Slot Nat → α} {f : Member Task → α}
    (same : ∀ m n, scene.tasks[n]? = some m.task → g (slotOf (m, n)) = f m) :
    scene.graph.slots.map g = (arrange (·.task.stage) (members changes)).map f := by
  have numbered : arrange (·.task.stage) ((members changes).zipIdx.map Prod.fst) =
      (arrange (·.1.task.stage) (members changes).zipIdx).map Prod.fst :=
    Graph.arrange_map _ _ (fun _ => rfl) _
  have placed : arrange (·.stage) ((members changes).zipIdx.map slotOf) =
      (arrange (·.1.task.stage) (members changes).zipIdx).map slotOf :=
    Graph.arrange_map _ _ (fun _ => rfl) _
  rw [List.zipIdx_map_fst] at numbered
  rw [numbered, h.slots, placed, List.map_map, List.map_map]
  refine List.map_congr_left fun m hm => same m.1 m.2 ?_
  have hm := List.mem_zipIdx_iff_getElem?.mp ((Graph.arrange_perm _ _).mem_iff.mp hm)
  rw [h.tasks, List.getElem?_map, hm]
  rfl

theorem Tended.filterMap_slots {α : Type} (h : scene.Tended changes) {g : Slot Nat → Option α}
    {f : Member Task → Option α}
    (same : ∀ m n, scene.tasks[n]? = some m.task → g (slotOf (m, n)) = f m) :
    scene.graph.slots.filterMap g = (arrange (·.task.stage) (members changes)).filterMap f := by
  have mapped := congrArg (List.filterMap id) (h.map_slots same)
  rwa [List.filterMap_map, List.filterMap_map] at mapped

theorem Tended.scheduled_eq (h : scene.Tended changes) :
    scene.scheduled = (arrange (·.task.stage) (members changes)).map (·.task) := by
  rw [scheduled, Graph.tasks, List.filterMap_map, ← List.filterMap_eq_map']
  exact h.filterMap_slots fun m n hm => hm

theorem Tended.orderly (h : scene.Tended changes) : scene.Orderly := by
  have numbers : scene.graph.tasks.Perm (List.range (members changes).length) := by
    rw [Graph.tasks, h.slots]
    refine ((Graph.arrange_perm _ _).map _).trans (.of_eq ?_)
    rw [List.map_map, List.range_eq_range', ← List.zipIdx_map_snd 0 (members changes)]
    rfl
  refine ⟨numbers.nodup_iff.mpr List.nodup_range, fun i hi => ?_⟩
  rw [h.tasks, List.length_map]
  exact List.mem_range.mp (numbers.mem_iff.mp hi)

/-- The tasks in order do not depend on how the stages were mixed when they were added. -/
theorem scheduled_of_changes (s : Session σ) (changes : List (Change Task)) :
    (changes.foldl change ({ session := s } : Scene σ)).scheduled =
      arrange Task.stage ((members changes).map (·.task)) := by
  rw [(tended_of_changes s changes).scheduled_eq]
  exact (Graph.arrange_map _ _ (fun _ => rfl) _).symm

theorem Tended.calls_sync (h : scene.Tended changes) :
    scene.sync.session.calls = scene.session.calls ++
      (arrange (·.task.stage) (members changes)).filterMap fun m =>
        if soloBits m.task.keep m.told = .none then none else m.task.told? (soloBits m.task.keep m.told) := by
  rw [scene.sync_eq.2.2]
  refine congrArg _ (h.filterMap_slots fun m n hm => ?_)
  rw [Scene.told?, slotOf, hm]
  rfl

/-- A scene of one task, which is told what a member of another one was told. -/
def alone (s : Session σ) (m : Member Task) : Scene σ :=
  (m.told.map .notice).foldl change (({ session := s } : Scene σ).change (.add m.task))

theorem dirtyBits_alone (s : Session σ) (m : Member Task) :
    (alone s m).graph.dirtyBits = [soloBits m.task.keep m.told] := by
  have tended := tended_of_changes s (.add m.task :: m.told.map .notice)
  have slots := tended.map_slots (g := (·.dirty)) (f := fun m => soloBits m.task.keep m.told) fun _ _ _ => rfl
  rw [Graph.members_alone] at slots
  refine slots.trans ?_
  cases hm : m.task.stage <;> simp [arrange, Stage.all, hm]

/-! ## Frames -/

theorem Orderly.prepare [Registry σ] (h : scene.Orderly) :
    scene.prepare.session = (Task.round prepareTurn scene.scheduled scene.session).2 ∧
    scene.prepare.scheduled = (Task.round prepareTurn scene.scheduled scene.session).1 ∧
    scene.prepare.Orderly := by
  obtain ⟨hsession, hscheduled, hgraph, hlength⟩ := @Orderly.forEach _ prepareTurn _ h
  have graph : scene.prepare.graph = scene.graph := hgraph
  have length : scene.prepare.tasks.length = scene.tasks.length := hlength
  exact ⟨hsession, hscheduled, graph ▸ h.nodup, fun i hi => length ▸ h.inRange i (graph ▸ hi)⟩

theorem Orderly.execute [CommandSink σ] (h : scene.Orderly) :
    scene.execute.session = (Task.round executeTurn scene.scheduled scene.session).2 ∧
    scene.execute.scheduled = (Task.round executeTurn scene.scheduled scene.session).1 := by
  obtain ⟨hsession, hscheduled, -⟩ := @Orderly.forEach _ executeTurn _ h
  exact ⟨hsession, hscheduled⟩

theorem Orderly.sync (h : scene.Orderly) : scene.sync.Orderly ∧ scene.sync.scheduled = scene.scheduled := by
  obtain ⟨hslots, htasks, -⟩ := scene.sync_eq
  have same : scene.sync.graph.tasks = scene.graph.tasks := by
    rw [Graph.tasks, hslots, List.map_map]
    rfl
  refine ⟨⟨same ▸ h.nodup, fun i hi => ?_⟩, by rw [scheduled, same, htasks, scheduled]⟩
  rw [htasks]
  exact h.inRange i (same ▸ hi)

theorem calls_prepareTurn [Registry σ] (task : Task) (s : Session σ) :
    (prepareTurn task s).2.calls = s.calls ++ (task.call? .prepare).toList :=
  task.calls_prepare (announce "prepare" task s)

theorem calls_executeTurn [CommandSink σ] (task : Task) (s : Session σ) :
    (executeTurn task s).2.calls = s.calls ++ (task.call? .execute).toList :=
  task.calls_execute (announce "execute" task s)

/-- Whatever tasks are added to a graph, and whatever it is told in between: the tasks stand stage by stage, and
within a stage as they were added. The bits of each are what they would be in a graph of its own that was told the
same since the task was added. The parts of a frame call each task once in this order, and one part ends before
the next begins; `calls` is what the tasks that are probes see of it. -/
theorem phases_of_changes [Registry σ] [CommandSink σ] (s : Session σ) (changes : List (Change Task)) :
    let scene := changes.foldl change ({ session := s } : Scene σ)
    let order := Stage.all.flatMap fun stage => (members changes).filter (·.task.stage = stage)
    let tasks := order.map (·.task)
    let bits (m : Member Task) := soloBits m.task.keep m.told
    scene.scheduled = tasks ∧
    (∀ changes' : List (Change Task),
      (∀ stage, ((members changes').map (·.task)).filter (·.stage = stage) =
        ((members changes).map (·.task)).filter (·.stage = stage)) →
      (changes'.foldl change ({ session := s } : Scene σ)).scheduled = scene.scheduled) ∧
    scene.graph.slots.map (fun slot => (scene.tasks[slot.task]?, slot.dirty)) =
      order.map (fun m => (some m.task, bits m)) ∧
    (∀ m ∈ order, ∀ s' : Session σ, (alone s' m).graph.dirtyBits = [bits m]) ∧
    (scene.prepare.session = (Task.round prepareTurn tasks scene.session).2 ∧
      scene.prepare.scheduled = (Task.round prepareTurn tasks scene.session).1 ∧
      scene.prepare.session.calls = scene.session.calls ++ tasks.filterMap (Task.call? .prepare)) ∧
    (scene.execute.session = (Task.round executeTurn tasks scene.session).2 ∧
      scene.execute.scheduled = (Task.round executeTurn tasks scene.session).1 ∧
      scene.execute.session.calls = scene.session.calls ++ tasks.filterMap (Task.call? .execute)) ∧
    let prepared := Task.round prepareTurn tasks scene.sync.session
    let executed := Task.round executeTurn prepared.1 prepared.2
    scene.runFrame.session = executed.2 ∧ scene.runFrame.scheduled = executed.1 ∧
    scene.runFrame.session.calls = scene.session.calls ++
      order.filterMap (fun m => if bits m = .none then none else m.task.told? (bits m)) ++
      tasks.filterMap (Task.call? .prepare) ++ tasks.filterMap (Task.call? .execute) := by
  intro scene order tasks bits
  have tended : scene.Tended changes := tended_of_changes s changes
  have stands : scene.scheduled = tasks := tended.scheduled_eq
  obtain ⟨hprepare, hprepared, -⟩ := tended.orderly.prepare
  obtain ⟨hexecute, hexecuted⟩ := tended.orderly.execute
  rw [stands] at hprepare hprepared hexecute hexecuted
  -- the same again for the parts of a frame
  obtain ⟨hsynced, hsame⟩ := tended.orderly.sync
  obtain ⟨hprepare', hprepared', hready⟩ := hsynced.prepare
  obtain ⟨hexecute', hexecuted'⟩ := hready.execute
  rw [hsame, stands] at hprepare' hprepared'
  rw [hprepared', hprepare'] at hexecute' hexecuted'
  refine ⟨stands, fun changes' same => ?_, tended.map_slots fun m n hm => by rw [slotOf, hm],
    fun m _ s' => dirtyBits_alone s' m, ⟨hprepare, hprepared, ?_⟩, ⟨hexecute, hexecuted, ?_⟩, hexecute',
    hexecuted', ?_⟩
  · rw [scheduled_of_changes, scheduled_of_changes]
    exact List.flatMap_congr fun stage _ => same stage
  · rw [hprepare]
    exact Task.calls_round calls_prepareTurn tasks scene.session
  · rw [hexecute]
    exact Task.calls_round calls_executeTurn tasks scene.session
  · have hframe : scene.runFrame.session = _ := hexecute'
    have kept (task : Task) (s : Session σ) : (prepareTurn task s).1.call? .execute = task.call? .execute :=
      task.call?_prepare _ _
    rw [hframe, Task.calls_round calls_executeTurn, Task.call?_round kept,
      Task.calls_round calls_prepareTurn, tended.calls_sync]
    rfl

end Scene

end Transparency
