import Transparency.Graph.DirtyBits
import Transparency.Graph.Stage

/-! Tasks in the order of their stages, each with what changed since it last looked. -/
namespace Transparency
open Transparency.Graph (Stage DirtyBits)

namespace Graph

/-- A place in the order. -/
structure Slot (τ : Type) where
  task : τ
  stage : Stage
  dirty : DirtyBits := .all
  deriving DecidableEq, Repr

end Graph

/-- The slots in order. -/
structure Graph (τ : Type) where
  slots : List (Graph.Slot τ) := []

namespace Graph
variable {τ : Type} {σ : Type}

/-- Adds a task behind the other tasks of its stage and of earlier ones. All counts as changed for
it. -/
def add (graph : Graph τ) (task : τ) (stage : Stage) : Graph τ where
  slots :=
    graph.slots.takeWhile (fun slot => slot.stage.order ≤ stage.order) ++
      { task, stage } :: graph.slots.dropWhile (fun slot => slot.stage.order ≤ stage.order)

/-- The tasks in order. -/
def tasks (graph : Graph τ) : List τ := graph.slots.map (·.task)

/-- The dirty bits in order. -/
def dirtyBits (graph : Graph τ) : List DirtyBits := graph.slots.map (·.dirty)

/-- Marks changes for all tasks. -/
def markDirty (graph : Graph τ) (bits : DirtyBits) : Graph τ where
  slots := graph.slots.map fun slot => { slot with dirty := slot.dirty ||| bits }

/-- Tells each task, in order, what changed, if anything did; `look` returns what is left of it. -/
def syncSlots (look : τ → DirtyBits → σ → DirtyBits × σ) :
    List (Slot τ) → σ → List (Slot τ) × σ
  | [], state => ([], state)
  | slot :: rest, state =>
    let (dirty, state) :=
      if slot.dirty = .none then (slot.dirty, state) else look slot.task slot.dirty state
    let (rest, state) := syncSlots look rest state
    ({ slot with dirty } :: rest, state)

/-- Tells each task, in order, what changed. -/
def sync (graph : Graph τ) (look : τ → DirtyBits → σ → DirtyBits × σ) (state : σ) : Graph τ × σ :=
  let (slots, state) := syncSlots look graph.slots state
  ({ slots }, state)

/-- Runs a step for each task, in order. -/
def forEach (graph : Graph τ) (step : τ → σ → σ) (state : σ) : σ :=
  graph.tasks.foldl (fun state task => step task state) state

end Graph

end Transparency
