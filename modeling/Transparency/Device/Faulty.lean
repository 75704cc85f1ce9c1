import Transparency.Device.Basic

/-! A device of which single calls can be made to fail before they reach it. -/
namespace Transparency.Device
open Buffer (Role Kind Field UsageHint Handle Source)

/-- A call that can be made to fail. -/
inductive Call
  | allocate (role : Role)
  | resize (role : Role) (elements : Nat)
  | upload (role : Role)
  | fill (role : Role)
  | draw
  deriving DecidableEq, Repr

/-- Which calls fail, and how: the calls are numbered from zero. -/
abbrev FaultPlan := Nat → Call → Option Error

/-- A device behind a plan of faults. -/
structure Faulty (σ : Type) where
  device : σ
  plan : FaultPlan := fun _ _ => none
  /-- The number of calls so far. -/
  calls : Nat := 0

/-- The roles whose calls fail, whenever they are made. -/
structure Faults where
  allocate : List Role := []
  resize : List Role := []
  upload : List Role := []
  fill : List Role := []
  draw : Bool := false

/-- The plan of a fixed set of faults. -/
def Faults.plan (faults : Faults) : FaultPlan
  | _, .allocate role => if role ∈ faults.allocate then some (.allocationFailed role) else none
  | _, .resize role elements =>
    if role ∈ faults.resize then some (.bufferTooLarge role elements 0) else none
  | _, .upload role => if role ∈ faults.upload then some (.unknownBuffer role) else none
  | _, .fill role => if role ∈ faults.fill then some (.unknownBuffer role) else none
  | _, .draw => if faults.draw then some (.unsupported "injected draw fault") else none

namespace Faulty
variable {σ : Type} {α : Type}

/-- Makes a call, unless the plan lets it fail. -/
def attempt (faulty : Faulty σ) (call : Call) (run : σ → Reply σ α) : Reply (Faulty σ) α :=
  let after := { faulty with calls := faulty.calls + 1 }
  match faulty.plan faulty.calls call with
  | some error => .fail error after
  | none => (run faulty.device).map fun device => { after with device }

instance [Registry σ] : Registry (Faulty σ) where
  features faulty := Registry.features faulty.device
  allocate faulty role fields kind hint :=
    faulty.attempt (.allocate role) fun device => Registry.allocate device role fields kind hint
  resize faulty handle elements :=
    faulty.attempt (.resize handle.role elements) fun device =>
      Registry.resize device handle elements
  upload faulty handle source :=
    faulty.attempt (.upload handle.role) fun device => Registry.upload device handle source
  destroy faulty handle := { faulty with device := Registry.destroy faulty.device handle }
  capacity? faulty handle := Registry.capacity? faulty.device handle

instance [CommandSink σ] : CommandSink (Faulty σ) where
  fill faulty handle value :=
    faulty.attempt (.fill handle.role) fun device => CommandSink.fill device handle value
  draw faulty draw := faulty.attempt .draw fun device => CommandSink.draw device draw

end Faulty

end Transparency.Device
