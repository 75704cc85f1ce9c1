import Transparency.Frame.Session

/-! What adds the fragments of a task: commands, each chosen by what the ones before came to. -/
namespace Transparency.Fragment
open Buffer (Handle)
open Device (CommandSink)
open Transparency.Frame (Session)

/-- The commands of a writer. -/
inductive Commands
  | done (result : Except Error Unit)
  | fill (buffer : Handle) (value : Int32) (next : Except Error Unit → Commands)
  | draw (command : Draw) (next : Except Error Unit → Commands)

namespace Commands

/-- Fills buffers in order, up to the first failure, and ends with the given result. -/
def fillAll (fills : List (Handle × Int32)) (result : Except Error Unit) : Commands :=
  match fills with
  | [] => .done result
  | (buffer, value) :: rest =>
    .fill buffer value fun
      | .error error => .done (.error error)
      | .ok () => fillAll rest result

/-- Carries out the commands. -/
def run {σ : Type} [CommandSink σ] (session : Session σ) :
    Commands → Except Error Unit × Session σ
  | .done result => (result, session)
  | .fill buffer value next =>
    let (result, session) := session.fill buffer value
    (next result).run session
  | .draw command next =>
    let (result, session) := session.draw command
    (next result).run session

end Commands

/-- What adds fragments. -/
structure Writer where
  /-- Whether there is anything to add. -/
  hasWork : Bool := true
  /-- Adds the fragments to the buffers. -/
  write : Buffers → Commands

end Transparency.Fragment
