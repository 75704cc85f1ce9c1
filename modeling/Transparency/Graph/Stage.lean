/-! The stages of a frame. -/
namespace Transparency.Graph

/-- A stage of a frame; the stages run in this order. -/
inductive Stage
  | setup
  /-- Geometry that hides what is behind it. -/
  | solid
  | skybox
  | transparent
  | resolve
  | postProcess
  | overlay
  deriving DecidableEq, Repr

namespace Stage

/-- The place of the stage in a frame. -/
def order : Stage → Nat
  | setup => 0
  | solid => 1
  | skybox => 2
  | transparent => 3
  | resolve => 4
  | postProcess => 5
  | overlay => 6

/-- The name of the stage. -/
def name : Stage → String
  | setup => "Setup"
  | solid => "Opaque"
  | skybox => "Skybox"
  | transparent => "Transparent"
  | resolve => "Resolve"
  | postProcess => "PostProcess"
  | overlay => "UI"

/-- All stages, in order. -/
def all : List Stage := [setup, solid, skybox, transparent, resolve, postProcess, overlay]

/-- Puts a stage among stages in order, behind the equal ones. -/
def insertSorted (stage : Stage) (stages : List Stage) : List Stage :=
  stages.takeWhile (fun other => other.order ≤ stage.order) ++
    stage :: stages.dropWhile (fun other => other.order ≤ stage.order)

/-- The stages in order. -/
def sort (stages : List Stage) : List Stage :=
  stages.foldl (fun sorted stage => insertSorted stage sorted) []

end Stage

end Transparency.Graph
