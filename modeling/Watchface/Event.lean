import Watchface.Host.Service
import Watchface.LittleEndian

/-!
The events that a watch delivers to its face, one at a time.
-/

namespace Watchface

inductive Event where
  | tick
  | connection (connected : Bool)
  | inbox (payload : Bytes)
  | timer (purpose : Purpose) (handle : Handle)
  deriving DecidableEq, Repr

namespace Event

def isService : Event → Bool
  | .tick | .connection _ => true
  | .inbox _ | .timer _ _ => false

def isTimer : Event → Bool
  | .timer _ _ => true
  | .tick | .connection _ | .inbox _ => false

end Event

end Watchface
