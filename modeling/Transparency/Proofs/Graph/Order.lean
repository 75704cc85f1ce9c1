import Mathlib.Data.List.Basic
import Mathlib.Data.List.Induction
import Transparency.Graph.Basic

/-!
# The order of a graph

Tasks stand stage by stage, and within a stage in the order in which they were added.
-/

namespace Transparency.Graph

variable {τ σ : Type}

/-- The tasks of a graph with their stages, in order. -/
def staged (graph : Graph τ) : List (τ × Stage) := graph.slots.map fun slot => (slot.task, slot.stage)

/-- Tasks with their stages, stage by stage. -/
def byStage (added : List (τ × Stage)) : List (τ × Stage) :=
  Stage.all.flatMap fun stage => added.filter (·.2 = stage)

theorem tasks_eq_staged (graph : Graph τ) : graph.tasks = graph.staged.map (·.1) := by
  simp [tasks, staged, Function.comp_def]

theorem takeWhile_append_of_split {α : Type} {p : α → Bool} (front back : List α)
    (hf : ∀ a ∈ front, p a = true) (hb : ∀ a ∈ back, p a = false) :
    (front ++ back).takeWhile p = front ∧ (front ++ back).dropWhile p = back := by
  rw [List.takeWhile_append_of_pos hf, List.dropWhile_append_of_pos hf]
  cases back with
  | nil => simp
  | cons b back => simp [hb b (by simp)]

theorem staged_add (graph : Graph τ) (task : τ) (stage : Stage) : (graph.add task stage).staged =
    graph.staged.takeWhile (fun a => decide (a.2.order ≤ stage.order)) ++
      (task, stage) :: graph.staged.dropWhile (fun a => decide (a.2.order ≤ stage.order)) := by
  simp [staged, add, List.takeWhile_map, List.dropWhile_map, Function.comp_def]

/-! ## Stage by stage -/

section
variable {α β : Type} (stage : α → Stage)

/-- Things that have a stage, stage by stage. -/
def arrange (xs : List α) : List α := Stage.all.flatMap fun st => xs.filter (stage · = st)

theorem arrange_map (stage' : β → Stage) {f : α → β} (same : ∀ a, stage' (f a) = stage a) (xs : List α) :
    arrange stage' (xs.map f) = (arrange stage xs).map f := by
  simp [arrange, List.map_flatMap, List.filter_map, Function.comp_def, same]

theorem filter_filter_eq (p : Stage → Bool) (xs : List α) (st : Stage) :
    (xs.filter fun b => p (stage b)).filter (stage · = st) = if p st then xs.filter (stage · = st) else [] := by
  split <;> simp only [List.filter_filter, List.filter_eq_nil_iff] <;> grind

/-- Things of lower stages, those of the stage, and those of upper stages. -/
theorem arrange_split (xs : List α) (st : Stage) : arrange stage xs =
    arrange stage (xs.filter fun b => decide ((stage b).order < st.order)) ++
      xs.filter (stage · = st) ++
        arrange stage (xs.filter fun b => decide (st.order < (stage b).order)) := by
  simp only [arrange, filter_filter_eq stage (fun other => decide (other.order < st.order)),
    filter_filter_eq stage fun other => decide (st.order < other.order)]
  cases st <;> simp [Stage.all, Stage.order]

theorem of_mem_arrange_filter (p : Stage → Bool) {xs : List α} {b : α}
    (h : b ∈ arrange stage (xs.filter fun b => p (stage b))) : p (stage b) = true := by
  obtain ⟨_, _, h⟩ := List.mem_flatMap.mp h
  exact (List.mem_filter.mp (List.mem_filter.mp h).1).2

theorem lower_of_mem_arrange {xs : List α} {st : Stage} {b : α}
    (h : b ∈ arrange stage (xs.filter fun b => decide ((stage b).order < st.order))) :
    (stage b).order < st.order :=
  of_decide_eq_true (of_mem_arrange_filter stage (fun other => decide (other.order < st.order)) h)

theorem upper_of_mem_arrange {xs : List α} {st : Stage} {b : α}
    (h : b ∈ arrange stage (xs.filter fun b => decide (st.order < (stage b).order))) :
    st.order < (stage b).order :=
  of_decide_eq_true (of_mem_arrange_filter stage (fun other => decide (st.order < other.order)) h)

/-- One more thing stands behind those of its stage. -/
theorem arrange_concat (xs : List α) (a : α) : arrange stage (xs ++ [a]) =
    (arrange stage xs).takeWhile (fun b => decide ((stage b).order ≤ (stage a).order)) ++
      a :: (arrange stage xs).dropWhile (fun b => decide ((stage b).order ≤ (stage a).order)) := by
  have front : ∀ b ∈ arrange stage (xs.filter fun b => decide ((stage b).order < (stage a).order)) ++
      xs.filter (stage · = stage a), decide ((stage b).order ≤ (stage a).order) = true := by
    intro b hb
    rcases List.mem_append.mp hb with hb | hb
    · simpa using Nat.le_of_lt (lower_of_mem_arrange stage hb)
    · have hba : stage b = stage a := by simpa using (List.mem_filter.mp hb).2
      simp [hba]
  have back : ∀ b ∈ arrange stage (xs.filter fun b => decide ((stage a).order < (stage b).order)),
      decide ((stage b).order ≤ (stage a).order) = false := fun b hb => by
    simpa using upper_of_mem_arrange stage hb
  obtain ⟨htake, hdrop⟩ := takeWhile_append_of_split _ _ front back
  rw [arrange_split stage xs (stage a), htake, hdrop, arrange_split stage (xs ++ [a]) (stage a)]
  simp

/-- One that comes first stands before those of its stage. -/
theorem arrange_cons (a : α) (xs : List α) : arrange stage (a :: xs) =
    (arrange stage xs).takeWhile (fun b => decide ((stage b).order < (stage a).order)) ++
      a :: (arrange stage xs).dropWhile (fun b => decide ((stage b).order < (stage a).order)) := by
  have front : ∀ b ∈ arrange stage (xs.filter fun b => decide ((stage b).order < (stage a).order)),
      decide ((stage b).order < (stage a).order) = true := fun b hb => by
    simpa using lower_of_mem_arrange stage hb
  have back : ∀ b ∈ xs.filter (stage · = stage a) ++
      arrange stage (xs.filter fun b => decide ((stage a).order < (stage b).order)),
      decide ((stage b).order < (stage a).order) = false := by
    intro b hb
    rcases List.mem_append.mp hb with hb | hb
    · have hba : stage b = stage a := by simpa using (List.mem_filter.mp hb).2
      simp [hba]
    · simpa using Nat.le_of_lt (upper_of_mem_arrange stage hb)
  obtain ⟨htake, hdrop⟩ := takeWhile_append_of_split _ _ front back
  rw [arrange_split stage xs (stage a), List.append_assoc, htake, hdrop,
    arrange_split stage (a :: xs) (stage a)]
  simp

theorem arrange_perm (xs : List α) : (arrange stage xs).Perm xs := by
  induction xs using List.reverseRecOn with
  | nil => simp [arrange]
  | append_singleton xs a ih =>
      rw [arrange_concat]
      apply List.perm_middle.trans
      rw [List.takeWhile_append_dropWhile]
      exact (ih.cons a).trans (List.perm_append_singleton a xs).symm

theorem orderLe_trans (a b c : α) (hab : decide ((stage a).order ≤ (stage b).order))
    (hbc : decide ((stage b).order ≤ (stage c).order)) : decide ((stage a).order ≤ (stage c).order) := by
  simp only [decide_eq_true_eq] at hab hbc ⊢
  exact Nat.le_trans hab hbc

theorem orderLe_total (a b : α) :
    decide ((stage a).order ≤ (stage b).order) || decide ((stage b).order ≤ (stage a).order) := by
  simp only [Bool.or_eq_true, decide_eq_true_eq]
  exact Nat.le_total _ _

/-- Standing stage by stage is being sorted by stage, with equal ones left in order. -/
theorem arrange_eq_mergeSort (xs : List α) :
    arrange stage xs = xs.mergeSort fun a b => (stage a).order ≤ (stage b).order := by
  induction xs with
  | nil => simp [arrange]
  | cons a xs ih =>
      obtain ⟨earlier, later, sorted, rest, below⟩ :=
        List.mergeSort_cons (orderLe_trans stage) (orderLe_total stage) a xs
      have pairwise := List.pairwise_mergeSort (orderLe_trans stage) (orderLe_total stage) (a :: xs)
      rw [sorted, List.pairwise_append, List.pairwise_cons] at pairwise
      -- in what is sorted already, the first one stands between those of lower stages and the others
      have isLower : ∀ b ∈ earlier, decide ((stage b).order < (stage a).order) = true := fun b hb => by
        simpa using below b hb
      have isUpper : ∀ b ∈ later, decide ((stage b).order < (stage a).order) = false := fun b hb => by
        simpa using pairwise.2.1.1 b hb
      obtain ⟨take, drop⟩ := takeWhile_append_of_split _ _ isLower isUpper
      rw [arrange_cons, ih, rest, take, drop, sorted]

theorem arrange_arrange (xs : List α) : arrange stage (arrange stage xs) = arrange stage xs := by
  rw [arrange_eq_mergeSort, arrange_eq_mergeSort]
  exact List.mergeSort_of_pairwise
    (List.pairwise_mergeSort (orderLe_trans stage) (orderLe_total stage) xs)

end

/-- Adding a task puts it behind those of its stage. -/
theorem byStage_concat (added : List (τ × Stage)) (task : τ) (stage : Stage) :
    byStage (added ++ [(task, stage)]) =
      (byStage added).takeWhile (fun a => decide (a.2.order ≤ stage.order)) ++
        (task, stage) :: (byStage added).dropWhile (fun a => decide (a.2.order ≤ stage.order)) :=
  arrange_concat Prod.snd added (task, stage)

theorem byStage_perm (added : List (τ × Stage)) : (byStage added).Perm added :=
  arrange_perm Prod.snd added

/-! ## Adding tasks -/

/-- Adds tasks, first one first. -/
def addAll (graph : Graph τ) (added : List (τ × Stage)) : Graph τ :=
  added.foldl (fun graph a => graph.add a.1 a.2) graph

/-- In whatever order tasks are added, they stand stage by stage. -/
theorem staged_addAll (added : List (τ × Stage)) : (addAll {} added).staged = byStage added := by
  induction added using List.reverseRecOn with
  | nil => simp [addAll, staged, byStage]
  | append_singleton added a ih =>
      rw [byStage_concat, ← ih, ← staged_add]
      simp [addAll]

end Transparency.Graph
