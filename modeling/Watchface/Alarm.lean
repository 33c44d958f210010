import Watchface.Host.Dialogue

/-!
Alarms, each of which owns at most one pending timer of the host.

Arming an alarm that is pending moves its timer instead of scheduling a second
one, so repeated triggers never stack.
-/

namespace Watchface

structure Alarm where
  purpose : Purpose
  pending : Option Handle
  deriving DecidableEq, Repr

namespace Alarm

def idle (purpose : Purpose) : Alarm := ⟨purpose, none⟩

def isPending (alarm : Alarm) : Bool := alarm.pending.isSome

def schedule (alarm : Alarm) (delay : UInt32) : Dialogue (Except ServiceError Unit × Alarm) := do
  match ← Dialogue.call (.schedule delay alarm.purpose) with
  | .ok handle => return (.ok (), { alarm with pending := some handle })
  | .error cause => return (.error cause, { alarm with pending := none })

/--
Make sure that the alarm goes off after `delay` milliseconds.  Where the host
no longer knows the pending timer, a new one takes its place; after any other
failure the pending timer keeps its old deadline.
-/
def arm (alarm : Alarm) (delay : UInt32) : Dialogue (Except ServiceError Unit × Alarm) :=
  match alarm.pending with
  | none => alarm.schedule delay
  | some handle => do
      match ← Dialogue.call (.reschedule handle delay) with
      | .ok () => return (.ok (), alarm)
      | .error .invalidHandle => alarm.schedule delay
      | .error cause => return (.error cause, alarm)

def fire? (alarm : Alarm) (handle : Handle) : Option Alarm :=
  if alarm.pending = some handle then some { alarm with pending := none } else none

theorem fire?_eq_some_iff {alarm fired : Alarm} {handle : Handle} :
    alarm.fire? handle = some fired ↔
      alarm.pending = some handle ∧ fired = idle alarm.purpose := by
  unfold fire?
  split
  · next h => simpa [h, idle] using eq_comm
  · next h => simp [h]

end Alarm

end Watchface
