import Transparency.Device.Limited

/-! A device of one of the two kinds. -/
namespace Transparency.Device
open Buffer (Role Kind Field Handle)

/-- A device that records what was done, or one with limits. -/
inductive Either
  | recorder (device : Recorder)
  | limited (device : Limited)

namespace Either

/-- Whether there can be memory for all buffers. -/
def isBacked : Either → Bool
  | recorder _ => true
  | limited device => device.isBacked

/-- Makes a handle that no buffer stands behind. -/
def issue (device : Either) (role : Role) (fields : List Field) (kind : Kind) : Handle × Either :=
  match device with
  | recorder device => (device.issue role fields kind).map id recorder
  | limited device => (device.issue role fields kind).map id limited

instance : Registry Either where
  features
    | recorder device => Registry.features device
    | limited device => Registry.features device
  allocate device role fields kind hint := match device with
    | recorder device => (Registry.allocate device role fields kind hint).map recorder
    | limited device => (Registry.allocate device role fields kind hint).map limited
  resize device handle elements := match device with
    | recorder device => (Registry.resize device handle elements).map recorder
    | limited device => (Registry.resize device handle elements).map limited
  upload device handle source := match device with
    | recorder device => (Registry.upload device handle source).map recorder
    | limited device => (Registry.upload device handle source).map limited
  destroy device handle := match device with
    | recorder device => recorder (Registry.destroy device handle)
    | limited device => limited (Registry.destroy device handle)
  capacity? device handle := match device with
    | recorder device => Registry.capacity? device handle
    | limited device => Registry.capacity? device handle

instance : CommandSink Either where
  fill device handle value := match device with
    | recorder device => (CommandSink.fill device handle value).map recorder
    | limited device => (CommandSink.fill device handle value).map limited
  draw device draw := match device with
    | recorder device => (CommandSink.draw device draw).map recorder
    | limited device => (CommandSink.draw device draw).map limited

end Either

end Transparency.Device
