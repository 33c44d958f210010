import Watchface.Host.Service
import Watchface.LittleEndian

/-!
The calls that a face makes to the watch it runs on, each with the type of its
answer.  Most calls can fail; the clock and the calls that take something back
cannot.
-/

namespace Watchface

inductive Call where
  | markDirty
  | doublePulse
  | enableInteraction
  | openChannel (inboxSize outboxSize : Nat)
  | closeChannel
  | send (payload : Bytes)
  | subscribeTick (unit : TickUnit)
  | unsubscribeTick
  | subscribeConnection
  | unsubscribeConnection
  | schedule (delay : UInt32) (purpose : Purpose)
  | reschedule (handle : Handle) (delay : UInt32)
  | readClock
  deriving DecidableEq, Repr

abbrev Call.Answer : Call → Type
  | .markDirty | .closeChannel | .unsubscribeTick | .unsubscribeConnection => Unit
  | .schedule _ _ => Except ServiceError Handle
  | .readClock => UInt32
  | .doublePulse | .enableInteraction | .openChannel _ _ | .send _ | .subscribeTick _
  | .subscribeConnection | .reschedule _ _ => Except ServiceError Unit

structure Exchange where
  call : Call
  answer : call.Answer

end Watchface
