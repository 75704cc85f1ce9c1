import Transparency.Fragment.Sizing
import Transparency.Frame.Session

/-! The fragment buffers over time: made when they are first needed, grown with the screen, and given
back together. -/
namespace Transparency.Fragment
open Buffer (Role Kind Element UsageHint Handle Source)
open Device (Registry)
open Transparency.Frame (Context Session)

/-- The fragment buffers, once they are made, and the size that they were grown to. -/
structure Bundle where
  buffers : Option Buffers := none
  size : Size := {}
  deriving DecidableEq, Repr

/-- What a buffer is made with. -/
structure BufferPlan where
  role : Role
  field : String
  element : Element
  kind : Kind
  hint : UsageHint := {}

/-- The fragment buffers in the order in which they are made. -/
def bufferPlans : List BufferPlan :=
  [{ role := .counter, field := "oitCounter", element := .int32, kind := .storage
     hint := { sizeVarying := true, cpuFilled := true } },
    { role := .indices, field := "oitIndices", element := .int32, kind := .storage
      hint := { sizeVarying := true } },
    { role := .data, field := "oitData", element := .float32x4, kind := .storage
      hint := { sizeVarying := true } },
    { role := .depth, field := "oitDepth", element := .float32, kind := .storage
      hint := { sizeVarying := true } },
    { role := .uniforms, field := "screenSize", element := .int32x2, kind := .uniform }]

/-- What is missing where the bundle has no buffers. -/
def missingBundle : Error := .missingBuffers "OIT buffer bundle"

/-- What an operation on a bundle comes to. -/
structure Outcome (σ : Type) (α : Type) where
  result : Except Error α
  bundle : Bundle
  session : Session σ

section
variable {σ : Type} [Registry σ]

/-- Makes buffers, after those made before; if one cannot be made, all are given back. -/
def allocateAll (made : List Handle) (session : Session σ) :
    List BufferPlan → Except Error (List Handle) × Session σ
  | [] => (.ok made, session)
  | plan :: rest =>
    match session.allocate plan.role [⟨plan.field, plan.element⟩] plan.kind plan.hint with
    | (.error error, session) => (.error error, session.destroyAll made)
    | (.ok handle, session) => allocateAll (made ++ [handle]) session rest

/-- Makes the fragment buffers, with room for the allocator alone. Either all are there afterwards,
or none. -/
def allocateBuffers (session : Session σ) : Except Error Buffers × Session σ :=
  match allocateAll [] session bufferPlans with
  | (.error error, session) => (.error error, session)
  | (.ok made, session) =>
    match Buffers.ofList? made with
    | none => (.error missingBundle, session)
    | some buffers =>
      match session.resize buffers.counter Capacities.empty.counter with
      | (.error error, session) => (.error error, session.destroyAll made)
      | (.ok (), session) => (.ok buffers, session.report .debug "Allocated OIT buffers")

end

namespace Bundle
variable {σ : Type}

/-- Whether the buffers are made. -/
def isAllocated (bundle : Bundle) : Bool := bundle.buffers.isSome

/-- The capacities that the buffers were grown to. -/
def capacities? (bundle : Bundle) : Option Capacities :=
  if bundle.isAllocated then (Capacities.ofSize bundle.size).toOption else none

/-- Puts the buffers into a frame context, if they are made. -/
def publish (bundle : Bundle) (context : Context) : Context :=
  match bundle.buffers with
  | none => context
  | some buffers => buffers.publish context

/-- The line that is logged when the buffers have grown. -/
def growthText (size : Size) (capacities : Capacities) : String :=
  "Grew OIT buffers to " ++ size.text ++ " (counter " ++ Text.decimal capacities.counter ++
    ", fragments " ++ Text.decimal capacities.fragments ++ ")"

variable [Registry σ]

/-- Makes the buffers, unless they are made. -/
def ensure (bundle : Bundle) (session : Session σ) : Outcome σ Buffers :=
  match bundle.buffers with
  | some buffers => { result := .ok buffers, bundle, session }
  | none =>
    match allocateBuffers session with
    | (.error error, session) => { result := .error error, bundle, session }
    | (.ok buffers, session) =>
      { result := .ok buffers, bundle := { buffers := some buffers }, session }

/-- Makes room in the buffers for a screen and tells the shaders its size. The largest buffer goes
first, so that a limit stops growth before anything has changed. -/
def growBuffers (buffers : Buffers) (session : Session σ) (size : Size)
    (capacities : Capacities) : Except Error Unit × Session σ :=
  match session.resizeAll [(buffers.data, capacities.fragments),
      (buffers.indices, capacities.fragments), (buffers.depth, capacities.fragments),
      (buffers.counter, capacities.counter)] with
  | (.error error, session) => (.error error, session)
  | (.ok (), session) => session.upload buffers.uniforms ⟨"screenSize", size.bytes⟩

/-- Grows the buffers if the requested size needs it; tells whether they grew. -/
def grow (bundle : Bundle) (session : Session σ) (requested : Size) : Outcome σ Bool :=
  match Decision.evaluate requested bundle.size with
  | .error error => { result := .error error, bundle, session }
  | .ok .unchanged => { result := .ok false, bundle, session }
  | .ok (.grow size capacities) =>
    match bundle.buffers with
    | none => { result := .error missingBundle, bundle, session }
    | some buffers =>
      match growBuffers buffers session size capacities with
      | (.error error, session) => { result := .error error, bundle, session }
      | (.ok (), session) =>
        { result := .ok true, bundle := { bundle with size }
          session := session.report .debug (growthText size capacities) }

/-- Makes the buffers, puts them into the frame context, and grows them to the requested size. -/
def prepare (bundle : Bundle) (session : Session σ) (requested : Size) : Outcome σ Unit :=
  if requested.isNegative then { result := .error (.invalidSize requested), bundle, session }
  else
    let made := bundle.ensure session
    match made.result with
    | .error error => { made with result := .error error }
    | .ok _ =>
      let published := made.session.withContext (made.bundle.publish made.session.context)
      let grown := made.bundle.grow published requested
      { grown with result := grown.result.map fun _ => () }

/-- Gives the buffers back. Their handles stay in the frame context, where they are unknown to the
device from now on. -/
def release (bundle : Bundle) (session : Session σ) : Bundle × Session σ :=
  match bundle.buffers with
  | none => ({}, session)
  | some buffers =>
    ({}, (session.destroyAll buffers.toList).report .debug "Released OIT buffers")

end Bundle

end Transparency.Fragment
