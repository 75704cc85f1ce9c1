import Transparency.Frame.Session

/-! The handshake of a frame: a task that wants to add fragments raises a flag, and the first one
that adds them clears the counter. -/
namespace Transparency.Frame
open Device (CommandSink)

/-- How far the frame is. -/
inductive State
  /-- Nobody wants to add fragments. -/
  | idle
  /-- Somebody does, and the counter is not cleared. -/
  | requested
  /-- The counter is cleared, and fragments may be added. -/
  | accumulating
  deriving DecidableEq, Repr

/-- The name of the state. -/
def State.name : State → String
  | idle => "Idle"
  | requested => "Requested"
  | accumulating => "Accumulating"

/-- What the counter is cleared to. -/
def counterClearValue : Int32 := -1

/-- Asks for the fragment buffers in this frame. -/
def Context.request (context : Context) : Context := context.setFlag .requestFlag

/-- How far the frame is. -/
def Context.state (context : Context) : State :=
  if context.hasFlag .requestFlag then
    if context.hasFlag .clearedFlag then .accumulating else .requested
  else .idle

namespace Session
variable {σ : Type} [CommandSink σ]

/-- Clears the counter, unless that was done in this frame. -/
def clearCounter (session : Session σ) : Except Error Unit × Session σ :=
  if session.context.hasFlag .clearedFlag then (.ok (), session)
  else
    match session.context.buffer? .counterBuffer with
    | none => (.error (.missingBuffers "OIT buffer initialization"), session)
    | some counter =>
      match session.fill counter counterClearValue with
      | (.error error, session) => (.error error, session)
      | (.ok (), session) =>
        (.ok (), ((session.withContext (session.context.setFlag .clearedFlag)).note
          (.cleared counter)).report .trace "Cleared OIT counter buffer")

end Session

end Transparency.Frame
