import Transparency.Draw
import Transparency.Error
import Transparency.Log

/-! What passes ask of a device: buffers, and commands on them. -/
namespace Transparency.Device
open Buffer (Role Kind Field UsageHint Handle Source)

/-- What a device can do. -/
structure Features where
  /-- Fragment shaders can bind the storage buffers of the resolve pass. -/
  fragmentStorage : Bool
  deriving DecidableEq, Repr

namespace Features

/-- All features. -/
def all : Features := ⟨true⟩

/-- The names and bits of the features. -/
def table : List (String × Nat) := [("FRAGMENT_STORAGE_BUFFERS", 1)]

/-- The features whose bits are set in a word. -/
def ofBits (bits : Nat) : Features := ⟨bits.testBit 0⟩

/-- The features as a word. -/
def bits (features : Features) : Nat := features.fragmentStorage.toNat

end Features

/-- What a call on a device comes to: its result, the device after it, and the lines that it
logged. -/
structure Reply (σ : Type) (α : Type) where
  result : Except Error α
  device : σ
  log : List LogLine := []

/-- A device that keeps buffers. -/
class Registry (σ : Type) where
  /-- What the device can do. -/
  features : σ → Features
  /-- Makes a buffer and hands out its handle. -/
  allocate : σ → Role → List Field → Kind → UsageHint → Reply σ Handle
  /-- Makes room for a number of elements. -/
  resize : σ → Handle → Nat → Reply σ Unit
  /-- Puts bytes at the front of a buffer. -/
  upload : σ → Handle → Source → Reply σ Unit
  /-- Gives a buffer back. -/
  destroy : σ → Handle → σ
  /-- The number of elements that a buffer has room for. -/
  capacity? : σ → Handle → Option Nat

/-- A device that carries out commands. -/
class CommandSink (σ : Type) where
  /-- Sets every word of a buffer. -/
  fill : σ → Handle → Int32 → Reply σ Unit
  /-- Draws over the whole screen. -/
  draw : σ → Draw → Reply σ Unit

/-- The reply of a call that fails and changes nothing. -/
def Reply.fail {σ α : Type} (error : Error) (device : σ) : Reply σ α :=
  { result := .error error, device }

/-- The reply of a call that does what it was asked. -/
def Reply.done {σ : Type} (device : σ) (log : List LogLine := []) : Reply σ Unit :=
  { result := .ok (), device, log }

/-- The reply of a device inside another one. -/
def Reply.map {σ τ α : Type} (f : σ → τ) (reply : Reply σ α) : Reply τ α :=
  { result := reply.result, device := f reply.device, log := reply.log }

end Transparency.Device
