import Transparency.Fragment.Capacities

/-! Whether the fragment buffers have to grow for a requested size. -/
namespace Transparency.Fragment

/-- What a request comes to. -/
inductive Decision
  | unchanged
  | grow (size : Size) (capacities : Capacities)
  deriving DecidableEq, Repr

namespace Decision

/-- Decides a request against the size that the buffers were made for. They never shrink: if either
axis is too short, they are made for the larger value on each axis. -/
def evaluate (requested recorded : Size) : Except Error Decision :=
  if requested.isNegative then .error (.invalidSize requested)
  else if recorded.covers requested then .ok .unchanged
  else
    let size := requested.sup recorded
    (Capacities.ofSize size).map (.grow size)

/-- The size recorded after a decision. -/
def record (recorded : Size) : Decision → Size
  | .unchanged => recorded
  | .grow size _ => size

/-- Decides requests one after another, with the size recorded after each. -/
def evaluateAll (recorded : Size) : List Size → List (Except Error Decision × Size)
  | [] => []
  | requested :: rest =>
    match evaluate requested recorded with
    | .error error => (.error error, recorded) :: evaluateAll recorded rest
    | .ok decision =>
      (.ok decision, decision.record recorded) :: evaluateAll (decision.record recorded) rest

end Decision

end Transparency.Fragment
