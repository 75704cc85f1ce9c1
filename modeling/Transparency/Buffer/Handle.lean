import Transparency.Buffer.Role

/-! Handles to buffers, and how passes bind them. -/
namespace Transparency.Buffer

/-- What a caller holds of a buffer. A device gives out each number once. -/
structure Handle where
  id : Nat
  role : Role
  kind : Kind
  fields : List Field
  deriving DecidableEq, Repr

/-- The bytes of one element. -/
def Handle.stride (handle : Handle) : Nat :=
  handle.fields.foldr (fun field bytes => field.element.size + bytes) 0

/-- Named bytes for a buffer. -/
structure Source where
  name : String
  bytes : List UInt8
  deriving DecidableEq, Repr

/-- How a pass uses a buffer. -/
inductive Access
  | readOnlyStorage
  | readWriteStorage
  | uniform
  deriving DecidableEq, Repr

namespace Access

/-- All ways to use a buffer. -/
def all : List Access := [readOnlyStorage, readWriteStorage, uniform]

/-- The name of the way to use a buffer. -/
def name : Access → String
  | readOnlyStorage => "ReadOnlyStorage"
  | readWriteStorage => "ReadWriteStorage"
  | uniform => "Uniform"

end Access

/-- A buffer at a binding of a pass. -/
structure Binding where
  binding : UInt32
  buffer : Handle
  access : Access
  deriving DecidableEq, Repr

end Transparency.Buffer
