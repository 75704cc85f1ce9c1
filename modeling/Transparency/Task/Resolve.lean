import Transparency.Fragment.Bundle
import Transparency.Frame.Protocol
import Transparency.Settings.Basic

/-! The task that keeps the fragment buffers and resolves the fragments of a frame. -/
namespace Transparency.Task
open Device (Registry CommandSink)
open Fragment (Bundle Buffers)
open Transparency.Frame (Context Session)

/-- What the resolve pass is drawn with. -/
structure ResolvePass where
  state : PassState
  shader : Shader.Program
  deriving DecidableEq, Repr

/-- The task. -/
structure Resolve where
  name : String
  settings : Settings := {}
  bundle : Bundle := {}
  /-- The pass, once it is built. -/
  pass : Option ResolvePass := none
  /-- What the pass draws to, without clear values. -/
  targets : List Target := []
  /-- The size that was last asked for since the buffers were last given back. -/
  requestedSize : Option Size := none
  /-- How often the task fell back to the size of its settings. -/
  fallbackWarnings : Nat := 0

namespace Resolve
variable {σ : Type}

/-- The size of a target, as far as signed words reach. -/
def targetSize (target : Target) : Size where
  width := Int32.ofNat (min target.width.toNat Size.maxAxis)
  height := Int32.ofNat (min target.height.toNat Size.maxAxis)

/-- The size assumed where there is no target. -/
def fallbackSize (task : Resolve) : Size := .square task.settings.fallbackSize

/-- The size to ask for: that of the first target, or the one of the settings. -/
def wantedSize (task : Resolve) : Size :=
  match task.targets with
  | [] => task.fallbackSize
  | first :: _ => targetSize first

/-- Whether the task is about to fall back to the size of its settings, other than last time. -/
def startsFallback (task : Resolve) : Bool :=
  task.targets.isEmpty && task.requestedSize ≠ some task.fallbackSize

/-- The warning that is logged when the task falls back to the size of its settings. -/
def fallbackText (task : Resolve) : String :=
  task.name ++ ": no AOV bindings in the frame context (render setup must run first), " ++
    "using fallback resolution " ++ task.fallbackSize.text

/-- Remembers the size to ask for, and warns if it is newly the one of the settings. -/
def settleSize (task : Resolve) (session : Session σ) : Resolve × Session σ :=
  let settled := { task with requestedSize := some task.wantedSize }
  if task.startsFallback then
    ({ settled with fallbackWarnings := task.fallbackWarnings + 1 },
      session.report .warn task.fallbackText)
  else (settled, session)

/-- Whether the task has anything to do with the frame: it is switched on, and some task asked for
the buffers. -/
def isNeeded (task : Resolve) (context : Context) : Bool :=
  task.settings.enabled && context.hasFlag .requestFlag

section
variable [Registry σ]

/-- Builds the pass, unless it is built. -/
def ensurePass (task : Resolve) (session : Session σ) : Except Error Resolve × Session σ :=
  if task.pass.isSome then (.ok task, session)
  else if !(Registry.features session.device).fragmentStorage then
    (.error (.unsupported "fragment storage buffers are not available"), session)
  else
    match Shader.resolveProgram with
    | .error failure => (.error (.template failure), session)
    | .ok shader =>
      (.ok { task with pass := some { state := .resolve, shader } },
        session.report shader.logLine.level shader.logLine.text)

/-- Takes over the targets of the frame and makes the buffers ready for them. -/
def prepareBuffers (task : Resolve) (session : Session σ) : Resolve × Session σ :=
  let targets := (session.context.targets?.getD []).map Target.kept
  let (task, session) := { task with targets }.settleSize session
  let outcome := task.bundle.prepare session task.wantedSize
  ({ task with bundle := outcome.bundle },
    match outcome.result with
    | .ok () => outcome.session
    | .error error => outcome.session.fail task.name error)

/-- Makes the pass and the buffers ready, if the frame needs them. -/
def prepare (task : Resolve) (session : Session σ) : Resolve × Session σ :=
  if !task.isNeeded session.context then
    (task, session.report .trace (task.name ++ ": no OIT requested this frame"))
  else
    let session := session.withContext (session.context.dropFlag .clearedFlag)
    match task.ensurePass session with
    | (.error error, session) => (task, session.fail task.name error)
    | (.ok task, session) => task.prepareBuffers session

/-- Gives the buffers back. -/
def release (task : Resolve) (session : Session σ) : Resolve × Session σ :=
  let (bundle, session) := task.bundle.release session
  ({ task with bundle, requestedSize := none }, session)

end

section
variable [CommandSink σ]

/-- The draw that resolves the fragments. -/
def resolveDraw (task : Resolve) (pass : ResolvePass) (buffers : Buffers) : Draw where
  label := task.name
  shader := pass.shader
  state := pass.state
  buffers := buffers.forReading
  targets := task.targets

/-- Draws the resolve pass with the buffers of the frame. -/
def drawPass (task : Resolve) (session : Session σ) : Session σ :=
  match task.pass with
  | none => session.fail task.name (.missingPass task.name)
  | some pass =>
    match Buffers.ofContext? session.context with
    | none => session.fail task.name (.missingBuffers task.name)
    | some buffers =>
      let draw := task.resolveDraw pass buffers
      match session.draw draw with
      | (.error error, session) => session.fail task.name error
      | (.ok (), session) => session.note (.resolved task.name draw)

/-- Ends the frame: takes its flags down and resolves the fragments, if there are any. -/
def execute (task : Resolve) (session : Session σ) : Session σ :=
  if !session.context.hasFlag .requestFlag then
    session.report .trace (task.name ++ ": nothing to resolve")
  else
    let session := session.withContext
      ((session.context.dropFlag .requestFlag).dropFlag .clearedFlag)
    if !task.settings.enabled then session else task.drawPass session

end

end Resolve

end Transparency.Task
