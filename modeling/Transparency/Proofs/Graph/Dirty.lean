import Transparency.Proofs.Graph.Order

/-!
# What is new to a task

The dirty bits of a task follow from what the graph was told since the task was added. The other tasks of the
graph do not count.
-/

namespace Transparency.Graph

variable {τ σ : Type}

/-! ## Tasks and notices -/

/-- What all tasks of a graph are told. -/
inductive Notice
  | mark (bits : DirtyBits)
  | sync

/-- The bits of a task after a notice, if a look at them leaves what `keep` says. It looks only while there is
something new. -/
def Notice.heard (keep : DirtyBits → DirtyBits) (dirty : DirtyBits) : Notice → DirtyBits
  | mark bits => dirty ||| bits
  | sync => if dirty = .none then .none else keep dirty

/-- The bits of a task that was told all this since it was added. -/
def soloBits (keep : DirtyBits → DirtyBits) (told : List Notice) : DirtyBits :=
  told.foldl (Notice.heard keep) .all

/-- What happens to a graph. -/
inductive Change (τ : Type)
  | add (task : τ)
  | notice (notice : Notice)

/-- A task of a graph, and what it was told since it was added. -/
structure Member (τ : Type) where
  task : τ
  told : List Notice := []

/-- The notices among some changes. -/
def notices (changes : List (Change τ)) : List Notice :=
  changes.filterMap fun
    | .add _ => none
    | .notice n => some n

/-- The tasks that were added, first one first, each with the notices behind it. -/
def members : List (Change τ) → List (Member τ)
  | [] => []
  | .add task :: later => ⟨task, notices later⟩ :: members later
  | .notice _ :: later => members later

theorem soloBits_concat (keep : DirtyBits → DirtyBits) (told : List Notice) (n : Notice) :
    soloBits keep (told ++ [n]) = n.heard keep (soloBits keep told) := by
  simp [soloBits]

theorem members_concat_add (changes : List (Change τ)) (task : τ) :
    members (changes ++ [.add task]) = members changes ++ [⟨task, []⟩] := by
  induction changes with
  | nil => rfl
  | cons change later ih =>
      cases change with
      | add other => simp [members, notices, ih]
      | notice n => simp [members, ih]

theorem members_concat_notice (changes : List (Change τ)) (n : Notice) :
    members (changes ++ [.notice n]) = (members changes).map fun m => { m with told := m.told ++ [n] } := by
  induction changes with
  | nil => rfl
  | cons change later ih =>
      cases change with
      | add other => simp [members, notices, ih]
      | notice n' => simp [members, ih]

/-- A task that is added alone hears all that comes. -/
theorem members_alone (task : τ) (told : List Notice) :
    members (.add task :: told.map .notice) = [⟨task, told⟩] := by
  have heard : notices (τ := τ) (told.map .notice) = told := by simp [notices, List.filterMap_map]
  have others : members (τ := τ) (told.map .notice) = [] := by
    induction told with
    | nil => rfl
    | cons n told ih => exact ih (by simp [notices, List.filterMap_map])
  rw [members, heard, others]

/-! ## Telling a graph -/

theorem slots_add {graph : Graph τ} {slots : List (Slot τ)} (h : graph.slots = arrange (·.stage) slots)
    (task : τ) (stage : Stage) :
    (graph.add task stage).slots = arrange (·.stage) (slots ++ [⟨task, stage, .all⟩]) := by
  rw [arrange_concat, add, h]

/-- Where a graph is in order, adding a task is standing it last and sorting by stage. -/
theorem slots_add_eq_mergeSort {graph : Graph τ} {slots : List (Slot τ)}
    (h : graph.slots = arrange (·.stage) slots) (task : τ) (stage : Stage) :
    (graph.add task stage).slots =
      (graph.slots ++ [({ task, stage } : Slot τ)]).mergeSort fun a b => a.stage.order ≤ b.stage.order := by
  rw [← arrange_eq_mergeSort (fun slot : Slot τ => slot.stage)]
  refine slots_add ?_ task stage
  rw [h, arrange_arrange]

/-- Slots keep their places while their bits change. -/
theorem arrange_told (f : Slot τ → DirtyBits) (slots : List (Slot τ)) :
    arrange (·.stage) (slots.map fun slot => { slot with dirty := f slot }) =
      (arrange (·.stage) slots).map fun slot => { slot with dirty := f slot } :=
  arrange_map _ _ (fun _ => rfl) _

/-- Each task looks at its own bits; `P` is what the looks keep of the state. -/
theorem syncSlots_fst (look : τ → DirtyBits → σ → DirtyBits × σ) (keep : τ → DirtyBits → DirtyBits)
    (P : σ → Prop) (looks : ∀ t d s, P s → (look t d s).1 = keep t d ∧ P (look t d s).2)
    (slots : List (Slot τ)) {s : σ} (hs : P s) :
    (syncSlots look slots s).1 =
      slots.map (fun slot => { slot with dirty := Notice.sync.heard (keep slot.task) slot.dirty }) ∧
    P (syncSlots look slots s).2 := by
  induction slots generalizing s with
  | nil => exact ⟨rfl, hs⟩
  | cons slot slots ih =>
      simp only [syncSlots, List.map_cons, Notice.heard]
      by_cases clean : slot.dirty = .none
      · simp only [clean, ↓reduceIte]
        exact ⟨by rw [(ih hs).1]; rfl, (ih hs).2⟩
      · obtain ⟨hd, hs'⟩ := looks slot.task slot.dirty s hs
        simp only [clean, ↓reduceIte, hd]
        exact ⟨by rw [(ih hs').1]; rfl, (ih hs').2⟩

end Transparency.Graph
