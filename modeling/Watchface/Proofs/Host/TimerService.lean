import Mathlib.Logic.Function.Basic
import Watchface.Proofs.Host.Arming
import Watchface.Simulator

/-!
# Timer services

A timer service keeps the live timers of a host, and the expiries that it has
not delivered yet.  It may refuse a call at any moment and let a timer expire
as soon as it is due, also between two calls of one reaction.  It promises
little: handles are issued once, a timer that is moved was live, and a handle
is called invalid only if it is not.

`Tracks` is what a face with two alarms can rely on: each live timer is the
pending one of its purpose, and a pending timer is live or about to be
delivered.  The face keeps this true by the way it arms its alarms.
-/

namespace Watchface

structure Expiry where
  purpose : Purpose
  handle : Handle
  deriving DecidableEq, Repr

structure TimerService where
  live : List Simulator.Timer
  undelivered : List Expiry
  issued : List Handle
  elapsed : Nat
  deriving DecidableEq, Repr

@[simp] def Call.isTimer : Call → Bool
  | .schedule _ _ | .reschedule _ _ => true
  | _ => false

def Quiet (log : List Exchange) : Prop := ∀ exchange ∈ log, exchange.call.isTimer = false

@[simp] theorem quiet_nil : Quiet [] := by
  intro exchange hmem
  contradiction

@[simp] theorem quiet_cons {exchange : Exchange} {log : List Exchange} :
    Quiet (exchange :: log) ↔ exchange.call.isTimer = false ∧ Quiet log :=
  List.forall_mem_cons

@[simp] theorem quiet_append {first second : List Exchange} :
    Quiet (first ++ second) ↔ Quiet first ∧ Quiet second :=
  List.forall_mem_append

namespace TimerService

def handles (service : TimerService) : List Handle := service.live.map Simulator.Timer.handle

def timersOf (service : TimerService) (purpose : Purpose) : List Simulator.Timer :=
  service.live.filter fun timer => timer.purpose = purpose

def add (service : TimerService) (handle : Handle) (purpose : Purpose) (delay : UInt32) :
    TimerService :=
  { service with
    live := service.live ++ [⟨handle, purpose, service.elapsed + delay.toNat⟩]
    issued := handle :: service.issued }

def postpone (handle : Handle) (deadline : Nat) (timer : Simulator.Timer) : Simulator.Timer :=
  if timer.handle = handle then { timer with deadline := deadline } else timer

@[simp] theorem handle_postpone (handle : Handle) (deadline : Nat) (timer : Simulator.Timer) :
    (postpone handle deadline timer).handle = timer.handle := by
  unfold postpone
  split <;> rfl

@[simp] theorem purpose_postpone (handle : Handle) (deadline : Nat) (timer : Simulator.Timer) :
    (postpone handle deadline timer).purpose = timer.purpose := by
  unfold postpone
  split <;> rfl

def move (service : TimerService) (handle : Handle) (delay : UInt32) : TimerService :=
  { service with live := service.live.map (postpone handle (service.elapsed + delay.toNat)) }

/-- The ways in which the service can answer a call, and what becomes of it. -/
inductive Answers : TimerService → Exchange → TimerService → Prop
  | scheduled {service : TimerService} {delay : UInt32} {purpose : Purpose} {handle : Handle}
      (fresh : handle ∉ service.issued) :
      Answers service ⟨.schedule delay purpose, .ok handle⟩ (service.add handle purpose delay)
  | unscheduled {service : TimerService} {delay : UInt32} {purpose : Purpose}
      {cause : ServiceError} :
      Answers service ⟨.schedule delay purpose, .error cause⟩ service
  | moved {service : TimerService} {handle : Handle} {delay : UInt32}
      (live : handle ∈ service.handles) :
      Answers service ⟨.reschedule handle delay, .ok ()⟩ (service.move handle delay)
  | gone {service : TimerService} {handle : Handle} {delay : UInt32}
      (gone : handle ∉ service.handles) :
      Answers service ⟨.reschedule handle delay, .error .invalidHandle⟩ service
  | unmoved {service : TimerService} {handle : Handle} {delay : UInt32} {cause : ServiceError}
      (known : cause ≠ .invalidHandle) :
      Answers service ⟨.reschedule handle delay, .error cause⟩ service
  | other {service : TimerService} {exchange : Exchange}
      (other : exchange.call.isTimer = false) : Answers service exchange service

/-- What the service does by itself: time passes, and a timer that is due expires. -/
inductive Moves : TimerService → TimerService → Prop
  | wait {service : TimerService} (milliseconds : Nat) :
      Moves service { service with elapsed := service.elapsed + milliseconds }
  | expire {service : TimerService} {before behind : List Simulator.Timer}
      {timer : Simulator.Timer} (live : service.live = before ++ timer :: behind)
      (due : timer.deadline ≤ service.elapsed) :
      Moves service { service with
        live := before ++ behind
        undelivered := ⟨timer.purpose, timer.handle⟩ :: service.undelivered }

/-- The service answers the calls of a log, and moves by itself as often as it likes. -/
inductive Serves : TimerService → List Exchange → TimerService → Prop
  | idle {service : TimerService} : Serves service [] service
  | move {service next after : TimerService} {log : List Exchange}
      (moves : Moves service next) (tail : Serves next log after) : Serves service log after
  | answer {service next after : TimerService} {exchange : Exchange} {log : List Exchange}
      (answers : Answers service exchange next) (tail : Serves next log after) :
      Serves service (exchange :: log) after

/-- Live timers have handles of their own, which were issued. -/
structure Numbered (service : TimerService) : Prop where
  live_issued : ∀ handle ∈ service.handles, handle ∈ service.issued
  nodup : service.handles.Nodup

variable {service after : TimerService} {pending : Purpose → Option Handle}
  {log : List Exchange}

theorem handles_add (handle : Handle) (purpose : Purpose) (delay : UInt32) :
    (service.add handle purpose delay).handles = service.handles ++ [handle] := by
  simp [add, handles]

theorem handles_move (handle : Handle) (delay : UInt32) :
    (service.move handle delay).handles = service.handles := by
  simp [handles, move]

theorem Numbered.add (h : service.Numbered) {handle : Handle} (fresh : handle ∉ service.issued)
    (purpose : Purpose) (delay : UInt32) : (service.add handle purpose delay).Numbered := by
  have hgone : handle ∉ service.handles := fun hlive => fresh (h.live_issued handle hlive)
  constructor
  case live_issued =>
    intro other hother
    rw [handles_add, List.mem_append, List.mem_singleton] at hother
    rcases hother with hother | rfl
    · exact List.mem_cons_of_mem _ (h.live_issued other hother)
    · exact List.mem_cons_self
  case nodup =>
    rw [handles_add, (List.perm_append_singleton handle service.handles).nodup_iff,
      List.nodup_cons]
    exact ⟨hgone, h.nodup⟩

theorem Numbered.move (h : service.Numbered) (handle : Handle) (delay : UInt32) :
    (service.move handle delay).Numbered := by
  constructor
  case live_issued =>
    rw [handles_move]
    exact h.live_issued
  case nodup =>
    rw [handles_move]
    exact h.nodup

theorem Numbered.answers {exchange : Exchange} (h : service.Numbered)
    (answers : Answers service exchange after) : after.Numbered := by
  cases answers with
  | scheduled fresh => exact h.add fresh _ _
  | moved => exact h.move _ _
  | unscheduled | gone | unmoved | other => exact h

/-! ## Tracking -/

structure Tracks (service : TimerService) (pending : Purpose → Option Handle) : Prop where
  live_issued : ∀ handle ∈ service.handles, handle ∈ service.issued
  undelivered_issued : ∀ expiry ∈ service.undelivered, expiry.handle ∈ service.issued
  nodup : service.handles.Nodup
  expired : ∀ expiry ∈ service.undelivered, expiry.handle ∉ service.handles
  owned : ∀ timer ∈ service.live, pending timer.purpose = some timer.handle
  known : ∀ purpose handle, pending purpose = some handle →
    (∃ timer ∈ service.live, timer.handle = handle ∧ timer.purpose = purpose) ∨
      ⟨purpose, handle⟩ ∈ service.undelivered

theorem Tracks.numbered (h : Tracks service pending) : service.Numbered :=
  ⟨h.live_issued, h.nodup⟩

theorem Tracks.length_timersOf_le_one (h : Tracks service pending) (purpose : Purpose) :
    (service.timersOf purpose).length ≤ 1 := by
  have hnodup : ((service.timersOf purpose).map Simulator.Timer.handle).Nodup :=
    List.Nodup.sublist (List.filter_sublist.map _) h.nodup
  have hsub : (service.timersOf purpose).map Simulator.Timer.handle ⊆
      (pending purpose).toList := by
    intro handle hmem
    obtain ⟨timer, htimer, rfl⟩ := List.mem_map.mp hmem
    rw [timersOf, List.mem_filter, decide_eq_true_eq] at htimer
    rw [Option.mem_toList, ← htimer.2]
    exact h.owned timer htimer.1
  have hlength := hnodup.length_le_of_subset hsub
  rw [List.length_map] at hlength
  exact Nat.le_trans hlength Option.length_toList_le

theorem Tracks.wait (h : Tracks service pending) (milliseconds : Nat) :
    Tracks { service with elapsed := service.elapsed + milliseconds } pending :=
  ⟨h.live_issued, h.undelivered_issued, h.nodup, h.expired, h.owned, h.known⟩

theorem Tracks.expire (h : Tracks service pending) {before behind : List Simulator.Timer}
    {timer : Simulator.Timer} (live : service.live = before ++ timer :: behind) :
    Tracks { service with
      live := before ++ behind
      undelivered := ⟨timer.purpose, timer.handle⟩ :: service.undelivered } pending := by
  have hperm : (timer.handle :: (before ++ behind).map Simulator.Timer.handle).Perm
      service.handles := by
    rw [handles, live, ← List.map_cons]
    exact (List.perm_middle.symm).map Simulator.Timer.handle
  have hnodup := hperm.nodup_iff.mpr h.nodup
  have hsub : ∀ handle ∈ (before ++ behind).map Simulator.Timer.handle,
      handle ∈ service.handles := fun handle hmem =>
    hperm.subset (List.mem_cons_of_mem _ hmem)
  have hself : timer.handle ∈ service.handles := hperm.subset List.mem_cons_self
  constructor
  case live_issued =>
    intro handle hmem
    exact h.live_issued handle (hsub handle hmem)
  case undelivered_issued =>
    intro expiry hmem
    rcases List.mem_cons.mp hmem with rfl | hmem
    · exact h.live_issued _ hself
    · exact h.undelivered_issued expiry hmem
  case nodup =>
    exact (List.nodup_cons.mp hnodup).2
  case expired =>
    intro expiry hmem
    rcases List.mem_cons.mp hmem with rfl | hmem
    · exact (List.nodup_cons.mp hnodup).1
    · intro hlive
      exact h.expired expiry hmem (hsub _ hlive)
  case owned =>
    intro other hother
    have hmem : other ∈ service.live := by
      rw [live, List.perm_middle.mem_iff]
      exact List.mem_cons_of_mem _ hother
    exact h.owned other hmem
  case known =>
    intro purpose handle hpending
    rcases h.known purpose handle hpending with ⟨other, hother, rfl, rfl⟩ | hmem
    · rw [live, List.perm_middle.mem_iff] at hother
      rcases List.mem_cons.mp hother with rfl | hother
      · exact .inr List.mem_cons_self
      · exact .inl ⟨other, hother, rfl, rfl⟩
    · exact .inr (List.mem_cons_of_mem _ hmem)

theorem Tracks.moves (h : Tracks service pending) (moves : Moves service after) :
    Tracks after pending := by
  cases moves with
  | wait milliseconds => exact h.wait milliseconds
  | expire live _ => exact h.expire live

theorem Tracks.add (h : Tracks service pending) {purpose : Purpose} {handle : Handle}
    (delay : UInt32) (fresh : handle ∉ service.issued) (idle : pending purpose = none) :
    Tracks (service.add handle purpose delay)
      (Function.update pending purpose (some handle)) := by
  have hnumbered := h.numbered.add fresh purpose delay
  constructor
  case live_issued => exact hnumbered.live_issued
  case undelivered_issued =>
    intro expiry hexpiry
    exact List.mem_cons_of_mem _ (h.undelivered_issued expiry hexpiry)
  case nodup => exact hnumbered.nodup
  case expired =>
    intro expiry hexpiry hlive
    rw [handles_add, List.mem_append, List.mem_singleton] at hlive
    rcases hlive with hlive | heq
    · exact h.expired expiry hexpiry hlive
    · exact fresh (heq ▸ h.undelivered_issued expiry hexpiry)
  case owned =>
    intro timer htimer
    rcases List.mem_append.mp htimer with htimer | htimer
    · have howned := h.owned timer htimer
      have hother : timer.purpose ≠ purpose := by
        intro heq
        rw [heq, idle] at howned
        contradiction
      rwa [Function.update_of_ne hother]
    · rw [List.mem_singleton] at htimer
      rw [htimer, Function.update_self]
  case known =>
    intro other found hpending
    by_cases heq : other = purpose
    · rw [heq, Function.update_self, Option.some.injEq] at hpending
      exact .inl ⟨_, List.mem_append_right _ List.mem_cons_self, hpending, heq.symm⟩
    · rw [Function.update_of_ne heq] at hpending
      rcases h.known other found hpending with ⟨timer, htimer, hfound⟩ | hexpiry
      · exact .inl ⟨timer, List.mem_append_left _ htimer, hfound⟩
      · exact .inr hexpiry

theorem Tracks.move (h : Tracks service pending) (handle : Handle) (delay : UInt32) :
    Tracks (service.move handle delay) pending := by
  have hnumbered := h.numbered.move handle delay
  constructor
  case live_issued => exact hnumbered.live_issued
  case undelivered_issued => exact h.undelivered_issued
  case nodup => exact hnumbered.nodup
  case expired =>
    rw [handles_move]
    exact h.expired
  case owned =>
    intro timer htimer
    obtain ⟨old, hold, rfl⟩ := List.mem_map.mp htimer
    rw [handle_postpone, purpose_postpone]
    exact h.owned old hold
  case known =>
    intro purpose found hpending
    rcases h.known purpose found hpending with ⟨old, hold, rfl, rfl⟩ | hexpiry
    · exact .inl ⟨_, List.mem_map_of_mem hold, handle_postpone _ _ old, purpose_postpone _ _ old⟩
    · exact .inr hexpiry

theorem Tracks.forget (h : Tracks service pending) {purpose : Purpose} {handle : Handle}
    (known : pending purpose = some handle) (gone : handle ∉ service.handles) :
    Tracks service (Function.update pending purpose none) := by
  constructor
  case live_issued => exact h.live_issued
  case undelivered_issued => exact h.undelivered_issued
  case nodup => exact h.nodup
  case expired => exact h.expired
  case owned =>
    intro timer htimer
    have howned := h.owned timer htimer
    have hother : timer.purpose ≠ purpose := by
      intro heq
      rw [heq, known, Option.some.injEq] at howned
      exact gone (howned ▸ List.mem_map_of_mem htimer)
    rwa [Function.update_of_ne hother]
  case known =>
    intro other found hpending
    by_cases heq : other = purpose
    · rw [heq, Function.update_self] at hpending
      contradiction
    · rw [Function.update_of_ne heq] at hpending
      exact h.known other found hpending

theorem Tracks.drop (h : Tracks service pending) {before behind : List Expiry} {expiry : Expiry}
    (undelivered : service.undelivered = before ++ expiry :: behind)
    (unawaited : pending expiry.purpose ≠ some expiry.handle) :
    Tracks { service with undelivered := before ++ behind } pending := by
  have hmem : ∀ other, other ∈ service.undelivered ↔
      other = expiry ∨ other ∈ before ++ behind := by
    intro other
    rw [undelivered, List.perm_middle.mem_iff, List.mem_cons]
  constructor
  case live_issued => exact h.live_issued
  case undelivered_issued =>
    intro other hother
    exact h.undelivered_issued other ((hmem other).mpr (.inr hother))
  case nodup => exact h.nodup
  case expired =>
    intro other hother
    exact h.expired other ((hmem other).mpr (.inr hother))
  case owned => exact h.owned
  case known =>
    intro purpose handle hpending
    rcases h.known purpose handle hpending with hlive | hexpiry
    · exact .inl hlive
    · rcases (hmem _).mp hexpiry with heq | hother
      · subst heq
        contradiction
      · exact .inr hother

theorem Tracks.deliver (h : Tracks service pending) {before behind : List Expiry}
    {expiry : Expiry} (undelivered : service.undelivered = before ++ expiry :: behind)
    (awaited : pending expiry.purpose = some expiry.handle) :
    Tracks { service with undelivered := before ++ behind }
      (Function.update pending expiry.purpose none) := by
  have hexpiry : expiry ∈ service.undelivered := by
    rw [undelivered]
    exact List.mem_append_right _ List.mem_cons_self
  have hforgotten := h.forget awaited (h.expired expiry hexpiry)
  apply hforgotten.drop undelivered
  rw [Function.update_self]
  simp

/-! ## Tracking through logs -/

theorem serves_cons {exchange : Exchange} (h : Serves service (exchange :: log) after) :
    ∃ before next, Serves service [] before ∧ Answers before exchange next ∧
      Serves next log after := by
  generalize hlog : exchange :: log = whole at h
  induction h with
  | idle => contradiction
  | move moves tail ih =>
      obtain ⟨before, next, hbefore, hanswers, hnext⟩ := ih hlog
      exact ⟨before, next, .move moves hbefore, hanswers, hnext⟩
  | answer answers tail =>
      obtain ⟨rfl, rfl⟩ := List.cons.inj hlog
      exact ⟨_, _, .idle, answers, tail⟩

theorem serves_append (first second : List Exchange)
    (h : Serves service (first ++ second) after) :
    ∃ mid, Serves service first mid ∧ Serves mid second after := by
  generalize hlog : first ++ second = whole at h
  induction h generalizing first with
  | idle =>
      obtain ⟨rfl, rfl⟩ := List.append_eq_nil_iff.mp hlog
      exact ⟨_, .idle, .idle⟩
  | move moves tail ih =>
      obtain ⟨mid, hfirst, hsecond⟩ := ih _ hlog
      exact ⟨mid, .move moves hfirst, hsecond⟩
  | answer answers tail ih =>
      cases first with
      | nil =>
          rw [List.nil_append] at hlog
          exact ⟨_, .idle, hlog ▸ .answer answers tail⟩
      | cons exchange first =>
          obtain ⟨rfl, htail⟩ := List.cons.inj hlog
          obtain ⟨mid, hfirst, hsecond⟩ := ih _ htail
          exact ⟨mid, .answer answers hfirst, hsecond⟩

theorem Answers.eq_of_quiet {exchange : Exchange} (h : Answers service exchange after)
    (quiet : exchange.call.isTimer = false) : after = service := by
  cases h with
  | other => rfl
  | scheduled | unscheduled | moved | gone | unmoved => contradiction

theorem Tracks.serves_quiet (h : Tracks service pending) (quiet : Quiet log)
    (serves : Serves service log after) : Tracks after pending := by
  induction serves with
  | idle => exact h
  | move moves _ ih => exact ih (h.moves moves) quiet
  | answer answers _ ih =>
      have hquiet := quiet_cons.mp quiet
      rw [answers.eq_of_quiet hquiet.1] at ih
      exact ih h hquiet.2

theorem Tracks.serves_idle (h : Tracks service pending) (serves : Serves service [] after) :
    Tracks after pending :=
  h.serves_quiet quiet_nil serves

theorem Tracks.serves_one (h : Tracks service pending) {exchange : Exchange}
    {found : Purpose → Option Handle} (serves : Serves service [exchange] after)
    (answers : ∀ before next, Tracks before pending → Answers before exchange next →
      Tracks next found) : Tracks after found := by
  obtain ⟨before, next, hbefore, hanswers, hafter⟩ := serves_cons serves
  have hnext := answers before next (h.serves_idle hbefore) hanswers
  exact hnext.serves_idle hafter

theorem Tracks.scheduled (h : Tracks service pending) {purpose : Purpose} {delay : UInt32}
    {answer : Except ServiceError Handle} (idle : pending purpose = none)
    (serves : Serves service [⟨.schedule delay purpose, answer⟩] after) :
    Tracks after (Function.update pending purpose answer.toOption) := by
  apply h.serves_one serves
  intro before next htracks hanswers
  cases hanswers with
  | scheduled fresh => exact htracks.add delay fresh idle
  | unscheduled =>
      rw [Except.toOption, ← idle, Function.update_eq_self]
      exact htracks
  | other other => contradiction

theorem Tracks.rescheduled (h : Tracks service pending) {handle : Handle} {delay : UInt32}
    {answer : Except ServiceError Unit} (known : answer ≠ .error .invalidHandle)
    (serves : Serves service [⟨.reschedule handle delay, answer⟩] after) :
    Tracks after pending := by
  apply h.serves_one serves
  intro before next htracks hanswers
  cases hanswers with
  | moved => exact htracks.move handle delay
  | gone => contradiction
  | unmoved => exact htracks
  | other => exact htracks

theorem Tracks.refused (h : Tracks service pending) {purpose : Purpose} {handle : Handle}
    {delay : UInt32} (known : pending purpose = some handle)
    (serves : Serves service [⟨.reschedule handle delay, .error .invalidHandle⟩] after) :
    Tracks after (Function.update pending purpose none) := by
  apply h.serves_one serves
  intro before next htracks hanswers
  cases hanswers with
  | gone gone => exact htracks.forget known gone
  | unmoved known => contradiction
  | other other => contradiction

theorem Tracks.arms {alarm armed : Alarm} {delay : UInt32} {result : Except ServiceError Unit}
    (h : Tracks service pending) (owner : pending alarm.purpose = alarm.pending)
    (arms : alarm.Arms delay log result armed) (serves : Serves service log after) :
    Tracks after (Function.update pending alarm.purpose armed.pending) := by
  cases arms with
  | scheduled idle | unscheduled idle => exact h.scheduled (owner.trans idle) serves
  | moved held =>
      rw [← owner, Function.update_eq_self]
      exact h.rescheduled (by simp) serves
  | kept held known =>
      rw [← owner, Function.update_eq_self]
      exact h.rescheduled (by simpa using known) serves
  | replaced held | lost held =>
      obtain ⟨mid, hrefused, hscheduled⟩ := serves_append [_] [_] serves
      have hmid := h.refused (owner.trans held) hrefused
      have hafter := hmid.scheduled (Function.update_self _ _ _) hscheduled
      rwa [Function.update_idem] at hafter

end TimerService

end Watchface
