import Mathlib.Data.List.Nodup
import Watchface.Proofs.Host.TimerService

/-!
# Deadlines

`Replies` is a service that does nothing but answer while a log is made.  On
such a service arming an alarm either sets its timer to one exact deadline, or
fails and leaves all timers as they were.
-/

namespace Watchface.TimerService

variable {service next after : TimerService} {pending : Purpose → Option Handle}
  {log : List Exchange} {purpose : Purpose} {handle : Handle} {delay : UInt32}

inductive Replies : TimerService → List Exchange → TimerService → Prop
  | nil {service : TimerService} : Replies service [] service
  | cons {service next after : TimerService} {exchange : Exchange} {log : List Exchange}
      (answers : Answers service exchange next) (tail : Replies next log after) :
      Replies service (exchange :: log) after

theorem Replies.serves (h : Replies service log after) : Serves service log after := by
  induction h with
  | nil => exact .idle
  | cons answers _ ih => exact .answer answers ih

theorem replies_nil_iff : Replies service [] after ↔ after = service := by
  constructor
  · intro h
    cases h
    rfl
  · rintro rfl
    exact .nil

theorem replies_cons_iff {exchange : Exchange} :
    Replies service (exchange :: log) after ↔
      ∃ next, Answers service exchange next ∧ Replies next log after := by
  constructor
  · intro h
    cases h with
    | cons answers tail => exact ⟨_, answers, tail⟩
  · rintro ⟨next, answers, tail⟩
    exact .cons answers tail

theorem replies_one_iff {exchange : Exchange} :
    Replies service [exchange] after ↔ Answers service exchange after := by
  simp [replies_cons_iff, replies_nil_iff]

theorem replies_append_iff {first second : List Exchange} :
    Replies service (first ++ second) after ↔
      ∃ next, Replies service first next ∧ Replies next second after := by
  induction first generalizing service with
  | nil => simp [replies_nil_iff]
  | cons exchange first ih =>
      simp only [List.cons_append, replies_cons_iff, ih]
      constructor
      · rintro ⟨next, answers, mid, hfirst, hsecond⟩
        exact ⟨mid, ⟨next, answers, hfirst⟩, hsecond⟩
      · rintro ⟨mid, ⟨next, answers, hfirst⟩, hsecond⟩
        exact ⟨next, answers, mid, hfirst, hsecond⟩

theorem Replies.eq_of_quiet (h : Replies service log after) (quiet : Quiet log) :
    after = service := by
  induction h with
  | nil => rfl
  | cons answers _ ih =>
      have hquiet := quiet_cons.mp quiet
      rw [ih hquiet.2, answers.eq_of_quiet hquiet.1]

theorem Replies.of_quiet_append {first second : List Exchange} (quiet : Quiet first)
    (h : Replies service (first ++ second) after) : Replies service second after := by
  obtain ⟨mid, hfirst, hsecond⟩ := replies_append_iff.mp h
  rwa [hfirst.eq_of_quiet quiet] at hsecond

theorem mem_timersOf {timer : Simulator.Timer} :
    timer ∈ service.timersOf purpose ↔ timer ∈ service.live ∧ timer.purpose = purpose := by
  simp [timersOf]

theorem timersOf_add (handle : Handle) (purpose other : Purpose) (delay : UInt32) :
    (service.add handle purpose delay).timersOf other =
      service.timersOf other ++
        if purpose = other then [⟨handle, purpose, service.elapsed + delay.toNat⟩] else [] := by
  simp [timersOf, add, List.filter_cons]

theorem timersOf_move (handle : Handle) (delay : UInt32) (purpose : Purpose) :
    (service.move handle delay).timersOf purpose =
      (service.timersOf purpose).map (postpone handle (service.elapsed + delay.toNat)) := by
  simp [timersOf, move, List.filter_map, Function.comp_def]

namespace Tracks

theorem timersOf_of_idle (h : Tracks service pending) (idle : pending purpose = none) :
    service.timersOf purpose = [] := by
  rw [timersOf, List.filter_eq_nil_iff]
  intro timer hmem hpurpose
  have howned := h.owned timer hmem
  rw [of_decide_eq_true hpurpose, idle] at howned
  contradiction

theorem timersOf_of_gone (h : Tracks service pending) (known : pending purpose = some handle)
    (gone : handle ∉ service.handles) : service.timersOf purpose = [] :=
  (h.forget known gone).timersOf_of_idle (Function.update_self _ _ _)

theorem timersOf_of_live (h : Tracks service pending) (known : pending purpose = some handle)
    (live : handle ∈ service.handles) :
    ∃ timer, service.timersOf purpose = [timer] ∧ timer.handle = handle ∧
      timer.purpose = purpose := by
  rcases h.known purpose handle known with ⟨timer, hmem, hhandle, hpurpose⟩ | hexpired
  · have hself : timer ∈ service.timersOf purpose := mem_timersOf.mpr ⟨hmem, hpurpose⟩
    have hlength := h.length_timersOf_le_one purpose
    obtain ⟨only, honly⟩ := List.length_eq_one_iff.mp
      (Nat.le_antisymm hlength (List.length_pos_of_mem hself))
    rw [honly, List.mem_singleton] at hself
    subst hself
    exact ⟨timer, honly, hhandle, hpurpose⟩
  · exact absurd live (h.expired _ hexpired)

theorem timersOf_of_delivered (h : Tracks service pending) (known : pending purpose = some handle)
    (delivered : service.undelivered = []) :
    ∃ timer, service.timersOf purpose = [timer] ∧ timer.handle = handle := by
  rcases h.known purpose handle known with ⟨timer, hmem, rfl, -⟩ | hundelivered
  · have hlive : timer.handle ∈ service.handles := List.mem_map_of_mem hmem
    obtain ⟨only, honly, hhandle, -⟩ := h.timersOf_of_live known hlive
    exact ⟨only, honly, hhandle⟩
  · rw [delivered] at hundelivered
    contradiction

theorem handle_ne (h : Tracks service pending) (known : pending purpose = some handle)
    (live : handle ∈ service.handles) {timer : Simulator.Timer} (mem : timer ∈ service.live)
    (other : timer.purpose ≠ purpose) : timer.handle ≠ handle := by
  intro heq
  obtain ⟨own, hown, hhandle, hpurpose⟩ := h.timersOf_of_live known live
  have hmem : own ∈ service.timersOf purpose := by
    rw [hown]
    exact List.mem_cons_self
  have hsame := List.inj_on_of_nodup_map h.nodup mem (mem_timersOf.mp hmem).1
    (heq.trans hhandle.symm)
  rw [hsame] at other
  exact other hpurpose

end Tracks

/-! ## Arming -/

/-- One purpose has a single timer that is due after the delay; the others have what they had. -/
structure Sets (service : TimerService) (purpose : Purpose) (delay : UInt32)
    (after : TimerService) : Prop where
  elapsed : after.elapsed = service.elapsed
  timer : ∃ handle, after.timersOf purpose =
    [⟨handle, purpose, service.elapsed + delay.toNat⟩]
  others : ∀ other, other ≠ purpose → after.timersOf other = service.timersOf other

theorem sets_add (handle : Handle) (delay : UInt32) (free : service.timersOf purpose = []) :
    service.Sets purpose delay (service.add handle purpose delay) := by
  constructor
  case elapsed => rfl
  case timer =>
    refine ⟨handle, ?_⟩
    rw [timersOf_add, free, if_pos rfl, List.nil_append]
  case others =>
    intro other hother
    rw [timersOf_add, if_neg (Ne.symm hother), List.append_nil]

theorem Tracks.sets_move (h : Tracks service pending) (delay : UInt32)
    (known : pending purpose = some handle) (live : handle ∈ service.handles) :
    service.Sets purpose delay (service.move handle delay) := by
  constructor
  case elapsed => rfl
  case timer =>
    obtain ⟨timer, htimer, hhandle, hpurpose⟩ := h.timersOf_of_live known live
    refine ⟨handle, ?_⟩
    rw [timersOf_move, htimer, List.map_singleton, postpone, if_pos hhandle, hhandle, hpurpose]
  case others =>
    intro other hother
    have hkept : ∀ timer ∈ service.timersOf other,
        postpone handle (service.elapsed + delay.toNat) timer = timer := by
      intro timer hmem
      rw [mem_timersOf] at hmem
      have hne : timer.purpose ≠ purpose := hmem.2.symm ▸ hother
      rw [postpone, if_neg (h.handle_ne known live hmem.1 hne)]
    rw [timersOf_move, List.map_congr_left hkept, List.map_id']

theorem Answers.sets_of_scheduled (free : service.timersOf purpose = [])
    (answers : Answers service ⟨.schedule delay purpose, .ok handle⟩ after) :
    service.Sets purpose delay after := by
  cases answers with
  | scheduled => exact sets_add handle delay free
  | other other => contradiction

theorem Answers.eq_of_unscheduled {cause : ServiceError}
    (answers : Answers service ⟨.schedule delay purpose, .error cause⟩ after) :
    after = service := by
  cases answers with
  | unscheduled => rfl
  | other other => contradiction

theorem Answers.gone_of_invalidHandle
    (answers : Answers service ⟨.reschedule handle delay, .error .invalidHandle⟩ after) :
    handle ∉ service.handles ∧ after = service := by
  cases answers with
  | gone gone => exact ⟨gone, rfl⟩
  | unmoved known => contradiction
  | other other => contradiction

theorem Tracks.sets_of_arms {alarm armed : Alarm} {result : Except ServiceError Unit}
    (h : Tracks service pending) (owner : pending alarm.purpose = alarm.pending)
    (arms : alarm.Arms delay log result armed) (replies : Replies service log after) :
    (result = .ok () ∧ service.Sets alarm.purpose delay after) ∨
      ((∃ cause, result = .error cause) ∧ after = service) := by
  cases arms with
  | scheduled idle =>
      have hfree := h.timersOf_of_idle (owner.trans idle)
      exact .inl ⟨rfl, (replies_one_iff.mp replies).sets_of_scheduled hfree⟩
  | @unscheduled cause =>
      exact .inr ⟨⟨cause, rfl⟩, (replies_one_iff.mp replies).eq_of_unscheduled⟩
  | moved held =>
      cases replies_one_iff.mp replies with
      | moved live => exact .inl ⟨rfl, h.sets_move delay (owner.trans held) live⟩
      | other other => contradiction
  | @kept handle cause _ known =>
      cases replies_one_iff.mp replies with
      | gone => contradiction
      | unmoved => exact .inr ⟨⟨cause, rfl⟩, rfl⟩
      | other other => contradiction
  | replaced held =>
      obtain ⟨mid, answers, tail⟩ := replies_cons_iff.mp replies
      obtain ⟨hgone, rfl⟩ := answers.gone_of_invalidHandle
      have hfree := h.timersOf_of_gone (owner.trans held) hgone
      exact .inl ⟨rfl, (replies_one_iff.mp tail).sets_of_scheduled hfree⟩
  | @lost handle cause =>
      obtain ⟨mid, answers, tail⟩ := replies_cons_iff.mp replies
      obtain ⟨-, rfl⟩ := answers.gone_of_invalidHandle
      exact .inr ⟨⟨cause, rfl⟩, (replies_one_iff.mp tail).eq_of_unscheduled⟩

def Ahead (service : TimerService) : Prop :=
  ∀ timer ∈ service.live, service.elapsed < timer.deadline

theorem Sets.ahead (h : service.Sets purpose delay after) (ahead : service.Ahead)
    (positive : 0 < delay.toNat) : after.Ahead := by
  intro timer hmem
  rw [h.elapsed]
  have hself : timer ∈ after.timersOf timer.purpose := mem_timersOf.mpr ⟨hmem, rfl⟩
  by_cases hpurpose : timer.purpose = purpose
  · obtain ⟨handle, hset⟩ := h.timer
    rw [hpurpose, hset, List.mem_singleton] at hself
    rw [hself]
    dsimp only
    omega
  · rw [h.others _ hpurpose] at hself
    exact ahead timer (mem_timersOf.mp hself).1

end Watchface.TimerService
