import Transparency.Device.Basic
import Transparency.Fragment.Buffers
import Transparency.Graph.DirtyBits

/-! What the tasks of a frame act on: the frame context, the device, the log, and a history of what
took effect. -/
namespace Transparency.Frame
open Buffer (Role Kind Field UsageHint Handle Source)
open Device (Registry CommandSink Reply)
open Transparency.Graph (DirtyBits)

/-- A part of a frame. -/
inductive Phase
  | prepare
  | execute
  deriving DecidableEq, Repr

/-- Something that took effect. Device calls are recorded under the handle that they were made
with. -/
inductive Event
  | allocated (handle : Handle)
  | resized (handle : Handle) (elements : Nat)
  | uploaded (handle : Handle) (bytes : List UInt8)
  | destroyed (handle : Handle)
  | filled (handle : Handle) (value : Int32)
  | drew (draw : Draw)
  /-- The counter was cleared for the frame. -/
  | cleared (counter : Handle)
  /-- A writer was called. -/
  | wrote (task : String) (buffers : Fragment.Buffers)
  /-- The fragments were resolved. -/
  | resolved (task : String) (draw : Draw)
  /-- A probe was called. -/
  | probed (phase : Phase) (task : String)
  /-- A probe was told what changed. -/
  | synced (task : String) (dirty : DirtyBits)
  deriving DecidableEq

/-- An event, and the device right after it. -/
structure Moment (σ : Type) where
  event : Event
  device : σ

/-- The state that the tasks act on. -/
structure Session (σ : Type) where
  context : Context := .empty
  device : σ
  /-- The lines logged, first one first. -/
  log : List LogLine := []
  /-- The events as they happened, first one first. -/
  history : List (Moment σ) := []

namespace Session
variable {σ : Type} {α : Type}

/-- Logs a line. -/
def report (session : Session σ) (level : LogLevel) (text : String) : Session σ :=
  { session with log := session.log ++ [⟨level, text⟩] }

/-- Logs an error of a task. -/
def fail (session : Session σ) (task : String) (error : Error) : Session σ :=
  session.report .error (task ++ ": " ++ error.message)

/-- Records an event. -/
def note (session : Session σ) (event : Event) : Session σ :=
  { session with history := session.history ++ [⟨event, session.device⟩] }

/-- Changes the context. -/
def withContext (session : Session σ) (context : Context) : Session σ := { session with context }

/-- Takes over what a call on the device came to; its event is recorded if it succeeded. -/
def absorb (session : Session σ) (reply : Reply σ α) (event : α → Event) :
    Except Error α × Session σ :=
  let after := { session with device := reply.device, log := session.log ++ reply.log }
  match reply.result with
  | .error error => (.error error, after)
  | .ok value => (.ok value, after.note (event value))

section
variable [Registry σ]

/-- Makes a buffer. -/
def allocate (session : Session σ) (role : Role) (fields : List Field) (kind : Kind)
    (hint : UsageHint) : Except Error Handle × Session σ :=
  session.absorb (Registry.allocate session.device role fields kind hint) .allocated

/-- Makes room in a buffer. -/
def resize (session : Session σ) (handle : Handle) (elements : Nat) :
    Except Error Unit × Session σ :=
  session.absorb (Registry.resize session.device handle elements) fun _ => .resized handle elements

/-- Puts bytes into a buffer. -/
def upload (session : Session σ) (handle : Handle) (source : Source) :
    Except Error Unit × Session σ :=
  session.absorb (Registry.upload session.device handle source) fun _ =>
    .uploaded handle source.bytes

/-- Gives a buffer back. -/
def destroy (session : Session σ) (handle : Handle) : Session σ :=
  { session with device := Registry.destroy session.device handle }.note (.destroyed handle)

/-- Gives buffers back, in order. -/
def destroyAll (session : Session σ) (handles : List Handle) : Session σ :=
  handles.foldl destroy session

/-- Makes room in buffers, in order, up to the first failure. -/
def resizeAll (session : Session σ) : List (Handle × Nat) → Except Error Unit × Session σ
  | [] => (.ok (), session)
  | (handle, elements) :: rest =>
    match session.resize handle elements with
    | (.error error, session) => (.error error, session)
    | (.ok (), session) => session.resizeAll rest

end

section
variable [CommandSink σ]

/-- Sets every word of a buffer. -/
def fill (session : Session σ) (handle : Handle) (value : Int32) : Except Error Unit × Session σ :=
  session.absorb (CommandSink.fill session.device handle value) fun _ => .filled handle value

/-- Draws over the whole screen. -/
def draw (session : Session σ) (draw : Draw) : Except Error Unit × Session σ :=
  session.absorb (CommandSink.draw session.device draw) fun _ => .drew draw

end

end Session

end Transparency.Frame
