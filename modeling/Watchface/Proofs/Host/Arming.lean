import Watchface.Alarm
import Watchface.Proofs.Host.Trace

/-!
# Arming an alarm

An alarm that is idle schedules a timer, and one that is pending moves its
timer.  Only where the host does not know the handle any more are there two
calls.  `Arms` lists the six ways in which this can go, each with its log.
-/

namespace Watchface

def Schedules (log : List Exchange) : Prop :=
  ∀ delay purpose cause, (⟨.schedule delay purpose, .error cause⟩ : Exchange) ∉ log

/-- No call that moves a timer is refused, unless the timer is gone. -/
def Reschedules (log : List Exchange) : Prop :=
  ∀ handle delay cause, (⟨.reschedule handle delay, .error cause⟩ : Exchange) ∈ log →
    cause = .invalidHandle

theorem Schedules.mono {first second : List Exchange} (h : Schedules second)
    (sub : first ⊆ second) : Schedules first :=
  fun delay purpose cause hmem => h delay purpose cause (sub hmem)

theorem Reschedules.mono {first second : List Exchange} (h : Reschedules second)
    (sub : first ⊆ second) : Reschedules first :=
  fun handle delay cause hmem => h handle delay cause (sub hmem)

namespace Alarm

inductive Arms (alarm : Alarm) (delay : UInt32) :
    List Exchange → Except ServiceError Unit → Alarm → Prop
  | scheduled {handle : Handle} (idle : alarm.pending = none) :
      Arms alarm delay [⟨.schedule delay alarm.purpose, .ok handle⟩]
        (.ok ()) { alarm with pending := some handle }
  | unscheduled {cause : ServiceError} (idle : alarm.pending = none) :
      Arms alarm delay [⟨.schedule delay alarm.purpose, .error cause⟩]
        (.error cause) { alarm with pending := none }
  | moved {handle : Handle} (pending : alarm.pending = some handle) :
      Arms alarm delay [⟨.reschedule handle delay, .ok ()⟩] (.ok ()) alarm
  | kept {handle : Handle} {cause : ServiceError} (pending : alarm.pending = some handle)
      (known : cause ≠ .invalidHandle) :
      Arms alarm delay [⟨.reschedule handle delay, .error cause⟩] (.error cause) alarm
  | replaced {handle fresh : Handle} (pending : alarm.pending = some handle) :
      Arms alarm delay
        [⟨.reschedule handle delay, .error .invalidHandle⟩,
          ⟨.schedule delay alarm.purpose, .ok fresh⟩]
        (.ok ()) { alarm with pending := some fresh }
  | lost {handle : Handle} {cause : ServiceError} (pending : alarm.pending = some handle) :
      Arms alarm delay
        [⟨.reschedule handle delay, .error .invalidHandle⟩,
          ⟨.schedule delay alarm.purpose, .error cause⟩]
        (.error cause) { alarm with pending := none }

variable {alarm armed : Alarm} {delay : UInt32} {log : List Exchange}
  {result : Except ServiceError Unit}

theorem trace_schedule (h : (alarm.schedule delay).Trace log (result, armed)) :
    (∃ handle, log = [⟨.schedule delay alarm.purpose, .ok handle⟩] ∧
      result = .ok () ∧ armed = { alarm with pending := some handle }) ∨
    (∃ cause, log = [⟨.schedule delay alarm.purpose, .error cause⟩] ∧
      result = .error cause ∧ armed = { alarm with pending := none }) := by
  have hcall := Dialogue.trace_call_bind_iff.mp h
  rcases hcall with ⟨cause | handle, rest, rfl, hdone⟩
  · right
    simp only [Dialogue.pure_eq, Dialogue.trace_done_iff, Prod.mk.injEq] at hdone
    exact ⟨cause, by rw [hdone.1], hdone.2⟩
  · left
    simp only [Dialogue.pure_eq, Dialogue.trace_done_iff, Prod.mk.injEq] at hdone
    exact ⟨handle, by rw [hdone.1], hdone.2⟩

theorem arms_of_trace (h : (alarm.arm delay).Trace log (result, armed)) :
    alarm.Arms delay log result armed := by
  unfold arm at h
  split at h
  · next hidle =>
    rcases trace_schedule h with ⟨handle, rfl, rfl, rfl⟩ | ⟨cause, rfl, rfl, rfl⟩
    · exact .scheduled hidle
    · exact .unscheduled hidle
  · next handle hpending =>
    obtain ⟨answer, rest, rfl, hrest⟩ := Dialogue.trace_call_bind_iff.mp h
    split at hrest
    · simp only [Dialogue.pure_eq, Dialogue.trace_done_iff, Prod.mk.injEq] at hrest
      obtain ⟨rfl, rfl, rfl⟩ := hrest
      exact .moved hpending
    · rcases trace_schedule hrest with ⟨fresh, rfl, rfl, rfl⟩ | ⟨cause, rfl, rfl, rfl⟩
      · exact .replaced hpending
      · exact .lost hpending
    · next cause hknown =>
      simp only [Dialogue.pure_eq, Dialogue.trace_done_iff, Prod.mk.injEq] at hrest
      obtain ⟨rfl, rfl, rfl⟩ := hrest
      apply Arms.kept hpending
      intro heq
      exact hknown (heq ▸ rfl)

theorem Arms.purpose_eq (h : alarm.Arms delay log result armed) :
    armed.purpose = alarm.purpose := by
  cases h <;> rfl

theorem Arms.isPending (h : alarm.Arms delay log result armed) (schedules : Schedules log) :
    armed.isPending = true := by
  cases h with
  | scheduled | replaced => rfl
  | moved pending | kept pending _ =>
      rw [Alarm.isPending, pending]
      rfl
  | unscheduled => exact absurd List.mem_cons_self (schedules _ _ _)
  | lost => exact absurd (List.mem_cons_of_mem _ List.mem_cons_self) (schedules _ _ _)

theorem Arms.result_eq_ok (h : alarm.Arms delay log result armed) (schedules : Schedules log)
    (reschedules : Reschedules log) : result = .ok () := by
  cases h with
  | scheduled | moved | replaced => rfl
  | kept _ known => exact absurd (reschedules _ _ _ List.mem_cons_self) known
  | unscheduled => exact absurd List.mem_cons_self (schedules _ _ _)
  | lost => exact absurd (List.mem_cons_of_mem _ List.mem_cons_self) (schedules _ _ _)

end Alarm

end Watchface
