import Watchface.Host.Dialogue

/-!
A simulated watch: a host with a clock, a list of timers and services that can
be told to fail.

A timer that is scheduled stays live until it is due or made to expire.  The
clock runs in milliseconds and only moves by `advance`, which takes every due
timer off the list before any of them is delivered.
-/

namespace Watchface

namespace Simulator

structure Timer where
  handle : Handle
  purpose : Purpose
  deadline : Nat
  deriving DecidableEq, Repr

end Simulator

structure Simulator where
  /-- The live timers, in the order in which they were scheduled. -/
  timers : List Simulator.Timer
  nextHandle : Handle
  /-- Milliseconds since the start. -/
  elapsed : Nat
  /-- The wall clock at the start, in seconds. -/
  epoch : UInt32
  faults : Service → Option ServiceError

namespace Simulator

def initial (epoch : UInt32) (faults : Service → Option ServiceError) : Simulator :=
  ⟨[], 1, 0, epoch, faults⟩

def now (watch : Simulator) : UInt32 := watch.epoch + UInt32.ofNat (watch.elapsed / 1000)

def serve (watch : Simulator) (service : Service) : Except ServiceError Unit :=
  match watch.faults service with
  | none => .ok ()
  | some fault => .error fault

def addTimer (watch : Simulator) (delay : UInt32) (purpose : Purpose) : Simulator :=
  { watch with
    timers := watch.timers ++ [⟨watch.nextHandle, purpose, watch.elapsed + delay.toNat⟩]
    nextHandle := watch.nextHandle + 1 }

def setDeadline? (handle : Handle) (deadline : Nat) : List Timer → Option (List Timer)
  | [] => none
  | timer :: timers =>
      if timer.handle = handle then some ({ timer with deadline := deadline } :: timers)
      else (setDeadline? handle deadline timers).map (timer :: ·)

def schedule (watch : Simulator) (delay : UInt32) (purpose : Purpose) :
    Except ServiceError Handle × Simulator :=
  match watch.faults .schedule with
  | some fault => (.error fault, watch)
  | none => (.ok watch.nextHandle, watch.addTimer delay purpose)

def reschedule (watch : Simulator) (handle : Handle) (delay : UInt32) :
    Except ServiceError Unit × Simulator :=
  match watch.faults .reschedule with
  | some fault => (.error fault, watch)
  | none =>
      match setDeadline? handle (watch.elapsed + delay.toNat) watch.timers with
      | some timers => (.ok (), { watch with timers := timers })
      | none => (.error .invalidHandle, watch)

def answer : (call : Call) → Simulator → call.Answer × Simulator
  | .markDirty, watch => ((), watch)
  | .doublePulse, watch => (watch.serve .vibration, watch)
  | .enableInteraction, watch => (watch.serve .backlight, watch)
  | .openChannel _ _, watch => (watch.serve .channel, watch)
  | .closeChannel, watch => ((), watch)
  | .send _, watch => (watch.serve .send, watch)
  | .subscribeTick _, watch => (watch.serve .tick, watch)
  | .unsubscribeTick, watch => ((), watch)
  | .subscribeConnection, watch => (watch.serve .connection, watch)
  | .unsubscribeConnection, watch => ((), watch)
  | .schedule delay purpose, watch => watch.schedule delay purpose
  | .reschedule handle delay, watch => watch.reschedule handle delay
  | .readClock, watch => (watch.now, watch)

def host : Host Simulator := ⟨answer⟩

/-- Let time pass: the timers that are due by then, earliest first, and the watch without them. -/
def advance (watch : Simulator) (milliseconds : Nat) : List Timer × Simulator :=
  let elapsed := watch.elapsed + milliseconds
  let due := watch.timers.filter fun timer => timer.deadline ≤ elapsed
  let live := watch.timers.filter fun timer => elapsed < timer.deadline
  (due.mergeSort fun first second => first.deadline ≤ second.deadline,
    { watch with timers := live, elapsed := elapsed })

inductive Disturbance where
  | fault (service : Service) (fault : Option ServiceError)
  | nextHandle (handle : Handle)
  /-- Drop the live timers with the handle without delivering them. -/
  | expire (handle : Handle)
  | epoch (seconds : UInt32)
  deriving DecidableEq, Repr

def setFault (watch : Simulator) (service : Service) (fault : Option ServiceError) : Simulator :=
  { watch with faults := fun other => if other = service then fault else watch.faults other }

def disturb (watch : Simulator) : Disturbance → Simulator
  | .fault service fault => watch.setFault service fault
  | .nextHandle handle => { watch with nextHandle := handle }
  | .expire handle =>
      { watch with timers := watch.timers.filter fun timer => timer.handle != handle }
  | .epoch seconds => { watch with epoch := seconds }

end Simulator

end Watchface
