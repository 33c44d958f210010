/-!
The services of a watch, what they are asked for, and how they fail.
-/

namespace Watchface

inductive TickUnit where
  | second
  | minute
  deriving DecidableEq, Repr

inductive Purpose where
  | bluetoothPopup
  | weatherRefresh
  deriving DecidableEq, Repr

abbrev Handle := UInt32

inductive Service where
  | schedule
  | reschedule
  | vibration
  | backlight
  | channel
  | send
  | tick
  | connection
  deriving DecidableEq, Repr

inductive ServiceError where
  | outOfMemory
  /-- The handle is not that of a pending timer. -/
  | invalidHandle
  | busy
  | notConnected
  | unavailable
  deriving DecidableEq, Repr

namespace ServiceError

def all : List ServiceError :=
  [.outOfMemory, .invalidHandle, .busy, .notConnected, .unavailable]

def message : ServiceError → String
  | .outOfMemory => "OutOfMemory"
  | .invalidHandle => "InvalidHandle"
  | .busy => "Busy"
  | .notConnected => "NotConnected"
  | .unavailable => "Unavailable"

end ServiceError

end Watchface
