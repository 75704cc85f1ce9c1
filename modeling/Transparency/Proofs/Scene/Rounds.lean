import Transparency.Proofs.Graph.Order
import Transparency.Proofs.Scene.Recipe
import Transparency.Proofs.Task.Turns

/-!
# Rounds of a scene

The tasks of a graph act one after another, each on what the one before left. A round over the numbers of
tasks is a round over the tasks themselves.
-/

namespace Transparency
open Device (Registry CommandSink)
open Transparency.Frame (Session)
open Transparency.Graph (Stage byStage)

variable {σ : Type}

/-! ## Kinds of tasks -/

namespace Task

/-- The stage of a task, and whether it is a probe. -/
def kind (task : Task) : Stage × Bool :=
  (task.stage, match task with | probe _ => true | _ => false)

/-- The task, if it tells the frame what it is drawn to. -/
def setup? : Task → Option Setup
  | setup task => some task
  | _ => none

/-- The task, if it adds fragments. -/
def producer? : Task → Option Producer
  | producer task => some task
  | _ => none

/-- The task, if it resolves fragments. -/
def resolve? : Task → Option Resolve
  | resolve task => some task
  | _ => none

theorem kind_prepare [Registry σ] (task : Task) (s : Session σ) :
    (task.prepare s).1.kind = task.kind := by
  cases task <;> rfl

theorem kind_execute [CommandSink σ] (task : Task) (s : Session σ) :
    (task.execute s).1.kind = task.kind := by
  cases task <;> rfl

theorem kind_withWriter (task : Task) (writer : Fragment.Writer) :
    (task.withWriter writer).kind = task.kind := by
  cases task <;> rfl

theorem kind_withTargets (task : Task) (targets : List Target) :
    (task.withTargets targets).kind = task.kind := by
  cases task <;> rfl

/-! ## Rounds of tasks -/

/-- Lets tasks act one after another. -/
def round (act : Task → Session σ → Task × Session σ) : List Task → Session σ → List Task × Session σ
  | [], s => ([], s)
  | task :: rest, s =>
    ((act task s).1 :: (round act rest (act task s).2).1, (round act rest (act task s).2).2)

theorem round_append (act : Task → Session σ → Task × Session σ) (front back : List Task)
    (s : Session σ) : round act (front ++ back) s =
      ((round act front s).1 ++ (round act back (round act front s).2).1,
        (round act back (round act front s).2).2) := by
  induction front generalizing s with
  | nil => rfl
  | cons task front ih => simp only [List.cons_append, round, ih]

end Task

namespace Scene
variable {act : Task → Session σ → Task × Session σ}

theorem step_of_some {scene : Scene σ} {index : Nat} {task : Task}
    (h : scene.tasks[index]? = some task) : scene.step index act = { scene with
      tasks := scene.tasks.set index (act task scene.session).1
      session := (act task scene.session).2 } := by
  rw [step, h]

theorem kinds_step (kept : ∀ task s, (act task s).1.kind = task.kind) (scene : Scene σ) (index : Nat) :
    (scene.step index act).tasks.map Task.kind = scene.tasks.map Task.kind := by
  rcases scene.step_cases index act with h | ⟨task, ht, h⟩
  · rw [h]
  · rw [h]
    apply List.ext_getElem?
    intro i
    by_cases same : index = i
    · subst same
      rw [List.map_set, kept, List.getElem?_set_self' , List.getElem?_map, ht]
      rfl
    · simp [same]

/-- The tasks with the given numbers. -/
def pick (scene : Scene σ) (indices : List Nat) : List Task := indices.filterMap (scene.tasks[·]?)

/-- A step for each of some tasks is a round of these tasks. -/
theorem foldl_step (indices : List Nat) (scene : Scene σ) (nodup : indices.Nodup)
    (known : ∀ i ∈ indices, i < scene.tasks.length) :
    let after := indices.foldl (fun scene i => scene.step i act) scene
    after.session = (Task.round act (scene.pick indices) scene.session).2 ∧
      after.pick indices = (Task.round act (scene.pick indices) scene.session).1 ∧
      (∀ i ∉ indices, after.tasks[i]? = scene.tasks[i]?) ∧ after.graph = scene.graph := by
  induction indices generalizing scene with
  | nil => exact ⟨rfl, rfl, fun _ _ => rfl, rfl⟩
  | cons i indices ih =>
      obtain ⟨fresh, nodup⟩ := List.nodup_cons.mp nodup
      have inRange : i < scene.tasks.length := known i (by simp)
      have hi : scene.tasks[i]? = some scene.tasks[i] := List.getElem?_eq_getElem inRange
      have hstep : scene.step i act = _ := step_of_some hi
      have hlength : (scene.step i act).tasks.length = scene.tasks.length := by simp [hstep]
      obtain ⟨hsession, hpick, hothers, hgraph⟩ := ih (scene.step i act) nodup fun j hj => by
        rw [hlength]; exact known j (List.mem_cons_of_mem _ hj)
      -- the step leaves the tasks alone that are still to come
      have hrest : (scene.step i act).pick indices = scene.pick indices := by
        apply List.filterMap_congr
        intro j hj
        have hij : i ≠ j := fun same => fresh (same ▸ hj)
        rw [hstep]
        simp [hij]
      have hfirst : (scene.step i act).tasks[i]? = some (act scene.tasks[i] scene.session).1 := by
        rw [hstep]
        simp [inRange]
      have hcons : scene.pick (i :: indices) = scene.tasks[i] :: scene.pick indices := by
        simp only [pick, List.filterMap_cons, hi]
      have hs : (scene.step i act).session = (act scene.tasks[i] scene.session).2 := by rw [hstep]
      rw [List.foldl_cons, hcons]
      refine ⟨?_, ?_, ?_, ?_⟩
      · rw [hsession, hrest, hs]; rfl
      · rw [hrest, hs] at hpick
        rw [Task.round, ← hpick]
        simp only [pick, List.filterMap_cons, hothers i fresh, hfirst]
      · intro j hj
        simp only [List.mem_cons, not_or] at hj
        rw [hothers j hj.2, hstep]
        simp [Ne.symm hj.1]
      · rw [hgraph, hstep]

/-! ## Scenes in order -/

/-- The numbers of tasks, with their stages. -/
def numbered (kinds : List (Stage × Bool)) : List (Nat × Stage) :=
  kinds.zipIdx.map fun k => (k.2, k.1.1)

/-- The graph holds every task once, by stages, and none of them is a probe. -/
structure Formed (scene : Scene σ) : Prop where
  order : scene.graph.tasks = (byStage (numbered (scene.tasks.map Task.kind))).map (·.1)
  known : ∀ k ∈ scene.tasks.map Task.kind, k.2 = false

/-- The scenes have tasks of the same kinds, in the same order. -/
structure Alike (scene' scene : Scene σ) : Prop where
  graph : scene'.graph.tasks = scene.graph.tasks
  kinds : scene'.tasks.map Task.kind = scene.tasks.map Task.kind

theorem Alike.trans {scene scene' scene'' : Scene σ} (h : scene''.Alike scene')
    (h' : scene'.Alike scene) : scene''.Alike scene :=
  ⟨h.graph.trans h'.graph, h.kinds.trans h'.kinds⟩

theorem Formed.congr {scene scene' : Scene σ} (h : scene.Formed) (ha : scene'.Alike scene) :
    scene'.Formed :=
  ⟨by rw [ha.graph, ha.kinds]; exact h.order, by rw [ha.kinds]; exact h.known⟩

theorem Formed.perm {scene : Scene σ} (h : scene.Formed) :
    scene.graph.tasks.Perm (List.range scene.tasks.length) := by
  rw [h.order]
  refine ((Graph.byStage_perm _).map _).trans (.of_eq ?_)
  rw [numbered, List.map_map, Function.comp_def, List.zipIdx_map_snd]
  simp [List.range_eq_range']

theorem Formed.nodup {scene : Scene σ} (h : scene.Formed) : scene.graph.tasks.Nodup :=
  h.perm.nodup_iff.mpr List.nodup_range

theorem Formed.inRange {scene : Scene σ} (h : scene.Formed) :
    ∀ i ∈ scene.graph.tasks, i < scene.tasks.length := fun _ hi =>
  List.mem_range.mp (h.perm.mem_iff.mp hi)

/-- Numbers that were taken by stage lead back to the tasks of that stage. -/
theorem pick_stage (stage : Stage) (front tasks : List Task) :
    (((((tasks.map Task.kind).zipIdx front.length).map fun k => (k.2, k.1.1)).filter
      (·.2 = stage)).map (·.1)).filterMap ((front ++ tasks)[·]?) =
      tasks.filter (·.stage = stage) := by
  induction tasks generalizing front with
  | nil => rfl
  | cons task tasks ih =>
      have hrest := ih (front ++ [task])
      rw [List.append_assoc, List.singleton_append, List.length_append, List.length_singleton]
        at hrest
      have hkind : task.kind.1 = task.stage := rfl
      simp only [List.map_cons, List.zipIdx_cons, List.filter_cons, hkind]
      split
      · simp [hrest]
      · exact hrest

theorem Formed.scheduled_eq {scene : Scene σ} (h : scene.Formed) :
    scene.scheduled = Stage.all.flatMap fun stage => scene.tasks.filter (·.stage = stage) := by
  rw [scheduled, h.order, byStage, List.map_flatMap, List.filterMap_flatMap]
  exact List.flatMap_congr fun stage _ => pick_stage stage [] scene.tasks

/-! ## The tasks of each kind -/

/-- The tasks that tell a frame what it is drawn to, in the order in which they were added. -/
def setups (scene : Scene σ) : List Task.Setup := scene.tasks.filterMap Task.setup?

/-- The tasks that add fragments, in the order in which they were added. -/
def producers (scene : Scene σ) : List Task.Producer := scene.tasks.filterMap Task.producer?

/-- The tasks that resolve fragments, in the order in which they were added. -/
def resolves (scene : Scene σ) : List Task.Resolve := scene.tasks.filterMap Task.resolve?

theorem mem_resolves {scene : Scene σ} {r : Task.Resolve} :
    r ∈ scene.resolves ↔ Task.resolve r ∈ scene.tasks := by
  rw [resolves, List.mem_filterMap]
  constructor
  · rintro ⟨task, ht, he⟩
    cases task <;> cases he
    exact ht
  · intro hr
    exact ⟨_, hr, rfl⟩

theorem mem_tasks_of_resolves {scene : Scene σ} {r : Task.Resolve} (one : scene.resolves = [r]) :
    Task.resolve r ∈ scene.tasks := by
  rw [← mem_resolves, one]
  exact List.mem_singleton_self r

theorem eq_of_mem_tasks {scene : Scene σ} {r only : Task.Resolve} (one : scene.resolves = [only])
    (hr : Task.resolve r ∈ scene.tasks) : r = only := by
  rw [← mem_resolves, one] at hr
  exact List.mem_singleton.mp hr

theorem length_resolves (scene : Scene σ) :
    scene.resolves.length = (scene.tasks.map Task.kind).count (.resolve, false) := by
  rw [resolves, List.length_filterMap_eq_countP, List.count_eq_countP, List.countP_map]
  apply List.countP_congr
  intro task _
  cases task <;> simp [Task.resolve?, Task.kind, Task.stage]

theorem Alike.one {scene scene' : Scene σ} (ha : scene'.Alike scene)
    (one : scene.resolves.length = 1) : scene'.resolves.length = 1 := by
  rw [length_resolves, ha.kinds, ← length_resolves, one]

theorem not_probe_of_known {tasks : List Task} (known : ∀ k ∈ tasks.map Task.kind, k.2 = false) :
    ∀ p, Task.probe p ∉ tasks := by
  intro p hp
  have h := known (Task.probe p).kind (List.mem_map.mpr ⟨_, hp, rfl⟩)
  cases h

theorem filter_eq_map_filterMap {α β : Type} {l : List α} {p : α → Bool} {f : α → Option β} {g : β → α}
    (hp : ∀ a ∈ l, p a = (f a).isSome) (hg : ∀ a b, f a = some b → g b = a) :
    l.filter p = (l.filterMap f).map g := by
  induction l with
  | nil => rfl
  | cons a l ih =>
      have hl := ih fun a ha => hp a (List.mem_cons_of_mem _ ha)
      have ha := hp a (List.mem_cons_self ..)
      cases hf : f a with
      | none => rw [List.filter_cons, ha, hf, List.filterMap_cons, hf, hl]; rfl
      | some b => rw [List.filter_cons, ha, hf, List.filterMap_cons, hf, hl, List.map_cons, hg a b hf]; rfl

/-- Without probes, the tasks of a stage are the tasks of one kind. -/
theorem filter_stage {tasks : List Task} (known : ∀ p, Task.probe p ∉ tasks) :
    tasks.filter (·.stage = .setup) = (tasks.filterMap Task.setup?).map .setup ∧
      tasks.filter (·.stage = .transparent) = (tasks.filterMap Task.producer?).map .producer ∧
      tasks.filter (·.stage = .resolve) = (tasks.filterMap Task.resolve?).map .resolve ∧
      ∀ stage, stage ≠ .setup → stage ≠ .transparent → stage ≠ .resolve →
        tasks.filter (·.stage = stage) = [] := by
  refine ⟨filter_eq_map_filterMap ?_ ?_, filter_eq_map_filterMap ?_ ?_,
    filter_eq_map_filterMap ?_ ?_, fun stage h1 h2 h3 => List.filter_eq_nil_iff.mpr ?_⟩
  · intro task ht
    cases task with
    | probe p => exact absurd ht (known p)
    | _ => rfl
  · intro task t ht
    cases task <;> cases ht
    rfl
  · intro task ht
    cases task with
    | probe p => exact absurd ht (known p)
    | _ => rfl
  · intro task t ht
    cases task <;> cases ht
    rfl
  · intro task ht
    cases task with
    | probe p => exact absurd ht (known p)
    | _ => rfl
  · intro task t ht
    cases task <;> cases ht
    rfl
  · intro task ht
    rw [decide_eq_true_eq]
    cases task with
    | probe p => exact absurd ht (known p)
    | setup t => exact h1.symm
    | producer t => exact h2.symm
    | resolve t => exact h3.symm

/-- A graph without probes sets the frame up, then adds fragments, then resolves them. -/
theorem Formed.scheduled_kinds {scene : Scene σ} (h : scene.Formed) : scene.scheduled =
    scene.setups.map .setup ++ scene.producers.map .producer ++ scene.resolves.map .resolve := by
  obtain ⟨hs, hp, hr, ho⟩ := filter_stage (not_probe_of_known h.known)
  rw [h.scheduled_eq]
  simp only [Stage.all, List.flatMap_cons, List.flatMap_nil, hs, hp, hr,
    ho .solid (by decide) (by decide) (by decide), ho .skybox (by decide) (by decide) (by decide),
    ho .postProcess (by decide) (by decide) (by decide),
    ho .overlay (by decide) (by decide) (by decide)]
  simp [setups, producers, resolves]

theorem Formed.kinds_of_scheduled {scene : Scene σ} (h : scene.Formed) {ss : List Task.Setup}
    {ps : List Task.Producer} {rs : List Task.Resolve}
    (he : scene.scheduled = ss.map .setup ++ ps.map .producer ++ rs.map .resolve) :
    scene.setups = ss ∧ scene.producers = ps ∧ scene.resolves = rs := by
  rw [h.scheduled_kinds] at he
  have hsetup := congrArg (List.filterMap Task.setup?) he
  have hproducer := congrArg (List.filterMap Task.producer?) he
  have hresolve := congrArg (List.filterMap Task.resolve?) he
  simp only [List.filterMap_append, List.filterMap_map, Function.comp_def, Task.setup?,
    Task.producer?, Task.resolve?] at hsetup hproducer hresolve
  exact ⟨by simpa using hsetup, by simpa using hproducer, by simpa using hresolve⟩

/-! ## The parts of a frame -/

/-- A task is prepared, which is logged before. -/
def prepareTurn [Registry σ] (task : Task) (s : Session σ) : Task × Session σ :=
  task.prepare (announce "prepare" task s)

/-- A task is executed, which is logged before. -/
def executeTurn [CommandSink σ] (task : Task) (s : Session σ) : Task × Session σ :=
  task.execute (announce "execute" task s)

theorem length_step (scene : Scene σ) (index : Nat) :
    (scene.step index act).tasks.length = scene.tasks.length := by
  rcases scene.step_cases index act with h | ⟨task, -, h⟩
  · rw [h]
  · rw [h, List.length_set]

/-- The graph holds no task twice, and no number that stands for none. -/
structure Orderly (scene : Scene σ) : Prop where
  nodup : scene.graph.tasks.Nodup
  inRange : ∀ i ∈ scene.graph.tasks, i < scene.tasks.length

/-- A round over the graph of a scene, whatever the tasks do in it. -/
theorem Orderly.forEach {scene : Scene σ} (h : scene.Orderly) :
    let after := scene.graph.forEach (fun i scene => scene.step i act) scene
    after.session = (Task.round act scene.scheduled scene.session).2 ∧
      after.scheduled = (Task.round act scene.scheduled scene.session).1 ∧ after.graph = scene.graph ∧
      after.tasks.length = scene.tasks.length := by
  obtain ⟨hsession, hpick, -, hgraph⟩ := @foldl_step _ act _ scene h.nodup h.inRange
  have hlength : ∀ (indices : List Nat) (scene : Scene σ),
      (indices.foldl (fun scene i => scene.step i act) scene).tasks.length = scene.tasks.length := by
    intro indices
    induction indices with
    | nil => exact fun _ => rfl
    | cons i indices ih => exact fun scene => (ih _).trans (length_step scene i)
  have hg : (scene.graph.forEach (fun i scene => scene.step i act) scene).graph = scene.graph := hgraph
  refine ⟨hsession, ?_, hg, hlength _ _⟩
  rw [scheduled, hg]
  exact hpick

/-- In a round, tasks stay of their kinds if each one does. -/
theorem Formed.forEach {scene : Scene σ} (h : scene.Formed)
    (kept : ∀ task s, (act task s).1.kind = task.kind) :
    let after := scene.graph.forEach (fun i scene => scene.step i act) scene
    after.Alike scene ∧ after.session = (Task.round act scene.scheduled scene.session).2 ∧
      after.scheduled = (Task.round act scene.scheduled scene.session).1 := by
  have orderly : scene.Orderly := ⟨h.nodup, h.inRange⟩
  obtain ⟨hsession, hscheduled, hgraph, -⟩ := @Orderly.forEach _ act _ orderly
  have hkinds : ∀ (indices : List Nat) (scene : Scene σ),
      (indices.foldl (fun scene i => scene.step i act) scene).tasks.map Task.kind =
        scene.tasks.map Task.kind := by
    intro indices
    induction indices with
    | nil => exact fun _ => rfl
    | cons i indices ih => exact fun scene => (ih _).trans (kinds_step kept scene i)
  exact ⟨⟨congrArg Graph.tasks hgraph, hkinds _ _⟩, hsession, hscheduled⟩

theorem Formed.prepare [Registry σ] {scene : Scene σ} (h : scene.Formed) :
    scene.prepare.Alike scene ∧
    scene.prepare.session = (Task.round prepareTurn scene.scheduled scene.session).2 ∧
    scene.prepare.scheduled = (Task.round prepareTurn scene.scheduled scene.session).1 :=
  h.forEach fun task _ => task.kind_prepare _

theorem Formed.execute [CommandSink σ] {scene : Scene σ} (h : scene.Formed) :
    scene.execute.Alike scene ∧
    scene.execute.session = (Task.round executeTurn scene.scheduled scene.session).2 ∧
    scene.execute.scheduled = (Task.round executeTurn scene.scheduled scene.session).1 :=
  h.forEach fun task _ => task.kind_execute _

theorem syncTask_snd {scene : Scene σ} (known : ∀ p, Task.probe p ∉ scene.tasks) (index : Nat)
    (dirty : Graph.DirtyBits) : (scene.syncTask index dirty).2 = scene := by
  unfold syncTask
  split
  · rfl
  · rename_i task ht
    cases task with
    | probe p => exact absurd (List.mem_of_getElem? ht) (known p)
    | setup t => rfl
    | producer t => rfl
    | resolve t => rfl

theorem syncSlots_snd {scene : Scene σ} (known : ∀ p, Task.probe p ∉ scene.tasks)
    (slots : List (Graph.Slot Nat)) :
    (Graph.syncSlots (fun i dirty scene => Scene.syncTask scene i dirty) slots scene).2 = scene ∧
      (Graph.syncSlots (fun i dirty scene => Scene.syncTask scene i dirty) slots scene).1.map
        (·.task) = slots.map (·.task) := by
  induction slots with
  | nil => exact ⟨rfl, rfl⟩
  | cons slot slots ih =>
      simp only [Graph.syncSlots]
      split
      · exact ⟨ih.1, by simp [ih.2]⟩
      · rw [syncTask_snd known]
        exact ⟨ih.1, by simp [ih.2]⟩

/-- Without probes, nothing comes of telling the tasks what changed but that they were told. -/
theorem sync_of_known {scene : Scene σ} (known : ∀ p, Task.probe p ∉ scene.tasks) :
    scene.sync.session = scene.session ∧ scene.sync.tasks = scene.tasks ∧
      scene.sync.graph.tasks = scene.graph.tasks := by
  obtain ⟨hs, hg⟩ := syncSlots_snd known scene.graph.slots
  exact ⟨(congrArg Scene.session hs :), (congrArg Scene.tasks hs :), hg⟩

theorem Formed.sync {scene : Scene σ} (h : scene.Formed) : scene.sync.Alike scene ∧
    scene.sync.session = scene.session ∧ scene.sync.tasks = scene.tasks ∧
    scene.sync.scheduled = scene.scheduled := by
  obtain ⟨hsession, htasks, hgraph⟩ := sync_of_known (not_probe_of_known h.known)
  refine ⟨⟨hgraph, by rw [htasks]⟩, hsession, htasks, ?_⟩
  rw [scheduled, hgraph, htasks, scheduled]

end Scene

end Transparency
