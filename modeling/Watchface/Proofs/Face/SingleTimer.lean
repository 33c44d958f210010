import Watchface.Proofs.Face.Run
import Watchface.Proofs.Host.TimerService

/-!
# One timer for each purpose

The face and its timer service run side by side: the service may move at any
moment, also between the calls of a reaction, and it delivers expiries in any
order.  `Synchronized` is the joint invariant.  Every part of a reaction keeps
it, and so it holds in all reachable states.
-/

namespace Watchface.Face

open TimerService (Serves Moves serves_append)

variable {platform : Platform} {service next : TimerService} {face after : Face}
  {log : List Exchange}

def Input.isTimer : Input → Bool
  | .event inner => inner.isTimer
  | .refresh _ => false

/-- The states of a service and its face; the service begins without timers. -/
inductive Reachable (platform : Platform) : TimerService → Face → Prop
  | fresh {issued : List Handle} {elapsed : Nat} :
      Reachable platform ⟨[], [], issued, elapsed⟩ (ofPlatform platform)
  | started {issued : List Handle} {elapsed : Nat} {opening : List Exchange}
      {service : TimerService} {face : Face}
      (start : (Face.start platform).Trace opening face)
      (serves : Serves ⟨[], [], issued, elapsed⟩ opening service) :
      Reachable platform service face
  | move {service next : TimerService} {face : Face}
      (reachable : Reachable platform service face) (moves : Moves service next) :
      Reachable platform next face
  | react {service next : TimerService} {face after : Face} {input : Input}
      {log : List Exchange} (reachable : Reachable platform service face)
      (untimed : input.isTimer = false) (reacts : (face.react input).Trace log after)
      (serves : Serves service log next) : Reachable platform next after
  | deliver {service next : TimerService} {face after : Face} {before behind : List Expiry}
      {expiry : Expiry} {log : List Exchange} (reachable : Reachable platform service face)
      (undelivered : service.undelivered = before ++ expiry :: behind)
      (reacts : (face.dispatch (.timer expiry.purpose expiry.handle)).Trace log after)
      (serves : Serves { service with undelivered := before ++ behind } log next) :
      Reachable platform next after

def pending (face : Face) (purpose : Purpose) : Option Handle := (face.alarm purpose).pending

theorem alarm_congr (popup : after.popup = face.popup) (refresh : after.refresh = face.refresh) :
    after.alarm = face.alarm := by
  funext purpose
  cases purpose with
  | bluetoothPopup => exact popup
  | weatherRefresh => exact refresh

theorem alarm_setPopup {popup : Alarm} (armed : after.popup = popup)
    (refresh : after.refresh = face.refresh) :
    after.alarm = Function.update face.alarm .bluetoothPopup popup := by
  funext purpose
  cases purpose with
  | bluetoothPopup => rw [Function.update_self]; exact armed
  | weatherRefresh => rw [Function.update_of_ne (by decide)]; exact refresh

theorem alarm_setRefresh {refresh : Alarm} (armed : after.refresh = refresh)
    (popup : after.popup = face.popup) :
    after.alarm = Function.update face.alarm .weatherRefresh refresh := by
  funext purpose
  cases purpose with
  | bluetoothPopup => rw [Function.update_of_ne (by decide)]; exact popup
  | weatherRefresh => rw [Function.update_self]; exact armed

theorem pending_update {purpose : Purpose} {alarm : Alarm}
    (h : after.alarm = Function.update face.alarm purpose alarm) :
    after.pending = Function.update face.pending purpose alarm.pending := by
  have hcomp := Function.comp_update Alarm.pending face.alarm purpose alarm
  rw [← h] at hcomp
  exact hcomp

/-! ## The joint invariant -/

structure Synchronized (service : TimerService) (face : Face) : Prop where
  purposes : ∀ purpose, (face.alarm purpose).purpose = purpose
  tracks : service.Tracks face.pending

theorem synchronized_ofPlatform (issued : List Handle) (elapsed : Nat) :
    Synchronized ⟨[], [], issued, elapsed⟩ (ofPlatform platform) := by
  constructor
  case purposes =>
    intro purpose
    cases purpose <;> rfl
  case tracks =>
    have hidle : ∀ purpose, (ofPlatform platform).pending purpose = none := by
      intro purpose
      cases purpose <;> rfl
    constructor <;> simp [TimerService.handles, hidle]

theorem Synchronized.congr (h : Synchronized service face) (alarms : after.alarm = face.alarm) :
    Synchronized service after := by
  have hpending : after.pending = face.pending := by
    funext purpose
    rw [pending, alarms, pending]
  exact ⟨alarms ▸ h.purposes, hpending ▸ h.tracks⟩

theorem Synchronized.quiet (h : Synchronized service face) (quiet : Quiet log)
    (serves : Serves service log next) : Synchronized next face :=
  ⟨h.purposes, h.tracks.serves_quiet quiet serves⟩

theorem Synchronized.replace (h : Synchronized service face) {purpose : Purpose} {alarm : Alarm}
    (alarms : after.alarm = Function.update face.alarm purpose alarm)
    (same : alarm.purpose = purpose)
    (tracks : next.Tracks (Function.update face.pending purpose alarm.pending)) :
    Synchronized next after := by
  constructor
  case purposes =>
    intro other
    rw [alarms]
    by_cases heq : other = purpose
    · rw [heq, Function.update_self, same]
    · rw [Function.update_of_ne heq, h.purposes]
  case tracks =>
    rw [pending_update alarms]
    exact tracks

theorem Synchronized.arms (h : Synchronized service face) (purpose : Purpose) {armed : Alarm}
    {delay : UInt32} {result : Except ServiceError Unit}
    (arms : (face.alarm purpose).Arms delay log result armed)
    (serves : Serves service log next)
    (alarms : after.alarm = Function.update face.alarm purpose armed) :
    Synchronized next after := by
  have hpurpose := h.purposes purpose
  have howner : face.pending (face.alarm purpose).purpose = (face.alarm purpose).pending := by
    rw [hpurpose, pending]
  have htracks := h.tracks.arms howner arms serves
  rw [hpurpose] at htracks
  exact h.replace alarms (arms.purpose_eq.trans hpurpose) htracks

theorem quiet_requests {force : Bool} (h : face.Requests force log) : Quiet log := by
  cases h <;> simp

theorem quiet_vibrates {connected : Bool} (h : face.Vibrates connected log) : Quiet log := by
  cases h <;> simp

theorem quiet_retunes {message : Dictionary} (h : face.Retunes message log after) :
    Quiet log := by
  cases h with
  | same => exact quiet_nil
  | changed _ resubscribes => cases resubscribes <;> simp

theorem quiet_start (h : (Face.start platform).Trace log face) : Quiet log := by
  obtain ⟨tick, connection, channel, rfl⟩ := (trace_start h).2
  simp

theorem Synchronized.rearms (h : Synchronized service face) (rearms : face.Rearms log after)
    (serves : Serves service log next) : Synchronized next after := by
  cases rearms with
  | off => exact h.quiet quiet_nil serves
  | on _ arms => exact h.arms .weatherRefresh arms serves (alarm_setRefresh rfl rfl)

theorem Synchronized.refreshes {force : Bool} (h : Synchronized service face)
    (refreshes : face.Refreshes force log after) (serves : Serves service log next) :
    Synchronized next after := by
  cases refreshes with
  | waiting => exact h.quiet quiet_nil serves
  | ready _ requests rearms =>
      obtain ⟨mid, hrequest, harming⟩ := serves_append _ _ serves
      have hmid := h.quiet (quiet_requests requests) hrequest
      exact hmid.rearms rearms harming

theorem Synchronized.connects {connected : Bool} (h : Synchronized service face)
    (connects : face.Connects connected log after) (serves : Serves service log next) :
    Synchronized next after := by
  cases connects with
  | silent _ vibrates =>
      have hquiet := quiet_vibrates vibrates
      exact h.quiet (by simpa using hquiet) serves
  | @announced pulse arming light result popup _ vibrates arms =>
      have hquiet := quiet_vibrates vibrates
      rw [List.append_cons] at serves
      obtain ⟨mid, hbefore, harming⟩ := serves_append _ _ serves
      have hmid := h.quiet (by simpa using hquiet) hbefore
      exact hmid.arms .bluetoothPopup arms harming (alarm_setPopup rfl rfl)

theorem Synchronized.retunes {message : Dictionary} (h : Synchronized service face)
    (retunes : face.Retunes message log after)
    (serves : Serves service (⟨.markDirty, ()⟩ :: log) next) (now : UInt32) :
    Synchronized next (after.takeWeather message now) := by
  have hretunes := quiet_retunes retunes
  have hnext := h.quiet (by simpa using hretunes) serves
  obtain ⟨unit, rfl⟩ := retunes.frame
  exact hnext.congr (alarm_congr rfl rfl)

theorem Synchronized.receives {message : Dictionary} (h : Synchronized service face)
    (receives : face.Receives message log after) (serves : Serves service log next) :
    Synchronized next after := by
  cases receives with
  | @quiet tuning tuned now _ retunes =>
      obtain ⟨mid, hbefore, hclock⟩ := serves_append _ _ serves
      have htuned := h.retunes retunes hbefore now
      exact htuned.quiet (by simp) hclock
  | @roused tuning weather tuned _ now _ retunes refreshes =>
      obtain ⟨mid, hbefore, hbehind⟩ := serves_append _ _ serves
      obtain ⟨clock, hclock, hweather⟩ := serves_append [_] _ hbehind
      have htuned := h.retunes retunes hbefore now
      have hread := htuned.quiet (by simp) hclock
      exact hread.refreshes refreshes hweather

theorem Synchronized.reacts {input : Input} (h : Synchronized service face)
    (untimed : input.isTimer = false) (reacts : face.Reacts input log after)
    (serves : Serves service log next) : Synchronized next after := by
  cases reacts with
  | tick => exact h.quiet (by simp) serves
  | connection connects => exact h.connects connects serves
  | unreadable => exact h.quiet quiet_nil serves
  | message _ receives => exact h.receives receives serves
  | stale | dismissed | abandoned | elapsed => contradiction
  | refresh refreshes => exact h.refreshes refreshes serves

variable {before behind : List Expiry} {expiry : Expiry}

theorem Synchronized.fires (h : Synchronized service face)
    (undelivered : service.undelivered = before ++ expiry :: behind)
    (awaited : (face.alarm expiry.purpose).pending = some expiry.handle)
    (alarms : after.alarm = Function.update face.alarm expiry.purpose
      { face.alarm expiry.purpose with pending := none }) :
    Synchronized { service with undelivered := before ++ behind } after :=
  h.replace alarms (h.purposes expiry.purpose) (h.tracks.deliver undelivered awaited)

theorem Synchronized.delivers (h : Synchronized service face)
    (undelivered : service.undelivered = before ++ expiry :: behind)
    (reacts : face.Reacts (.event (.timer expiry.purpose expiry.handle)) log after)
    (serves : Serves { service with undelivered := before ++ behind } log next) :
    Synchronized next after := by
  obtain ⟨purpose, handle⟩ := expiry
  cases reacts with
  | stale stale =>
      have hdropped : Synchronized { service with undelivered := before ++ behind } face :=
        ⟨h.purposes, h.tracks.drop undelivered stale⟩
      exact hdropped.quiet quiet_nil serves
  | dismissed awaited =>
      refine Synchronized.quiet ?_ (by simp) serves
      exact h.fires undelivered awaited (alarm_setPopup rfl rfl)
  | abandoned awaited _ =>
      refine Synchronized.quiet ?_ quiet_nil serves
      exact h.fires undelivered awaited (alarm_setRefresh rfl rfl)
  | elapsed awaited _ refreshes =>
      refine Synchronized.refreshes ?_ refreshes serves
      exact h.fires undelivered awaited (alarm_setRefresh rfl rfl)

theorem Reachable.synchronized (h : Reachable platform service face) :
    Synchronized service face := by
  induction h with
  | fresh => exact synchronized_ofPlatform _ _
  | started start serves =>
      rw [(trace_start start).1]
      exact (synchronized_ofPlatform _ _).quiet (quiet_start start) serves
  | move _ moves ih => exact ⟨ih.purposes, ih.tracks.moves moves⟩
  | react _ untimed reacts serves ih => exact ih.reacts untimed (reacts_of_trace reacts) serves
  | deliver _ undelivered reacts serves ih =>
      exact ih.delivers undelivered (reacts_of_timer reacts) serves

/--
In every reachable state and for each purpose: no more than one timer of the
purpose is live, and none if its alarm is idle.  If the alarm is pending, no
other handle is live for the purpose, and its own handle is live for the
purpose or about to be delivered.
-/
theorem one_timer_for_each_purpose (h : Reachable platform service face) (purpose : Purpose) :
    (service.timersOf purpose).length ≤ 1 ∧
    match (face.alarm purpose).pending with
    | none => ∀ timer ∈ service.live, timer.purpose ≠ purpose
    | some handle =>
        (∀ timer ∈ service.live, timer.purpose = purpose → timer.handle = handle) ∧
        ((∃ timer ∈ service.live, timer.handle = handle ∧ timer.purpose = purpose) ∨
          ⟨purpose, handle⟩ ∈ service.undelivered) := by
  have htracks := h.synchronized.tracks
  have howned : ∀ timer ∈ service.live, timer.purpose = purpose →
      (face.alarm purpose).pending = some timer.handle := by
    rintro timer htimer rfl
    exact htracks.owned timer htimer
  refine ⟨htracks.length_timersOf_le_one purpose, ?_⟩
  split
  · next hidle =>
    intro timer htimer hpurpose
    rw [howned timer htimer hpurpose] at hidle
    contradiction
  · next handle hpending =>
    constructor
    · intro timer htimer hpurpose
      have hhandle := howned timer htimer hpurpose
      rw [hpending, Option.some.injEq] at hhandle
      exact hhandle.symm
    · exact htracks.known purpose handle hpending

/-- The popup is triggered again while its first timer has expired but is not yet delivered. -/
theorem one_timer_after_race :
    let service : TimerService :=
      ⟨[⟨8, .bluetoothPopup, 10000⟩], [⟨.bluetoothPopup, 7⟩], [8, 7], 5000⟩
    let face : Face := { ofPlatform .colorRect with
      popup := ⟨.bluetoothPopup, some 8⟩, popupShown := true }
    Reachable .colorRect service face ∧ (service.timersOf .bluetoothPopup).length ≤ 1 ∧
      ∀ timer ∈ service.live, timer.purpose = .bluetoothPopup → timer.handle = 8 := by
  intro service face
  have hshown : ((ofPlatform .colorRect).react (.event (.connection false))).Trace
      [⟨.markDirty, ()⟩, ⟨.doublePulse, .ok ()⟩, ⟨.enableInteraction, .ok ()⟩,
        ⟨.schedule 5000 .bluetoothPopup, .ok 7⟩]
      { face with popup := ⟨.bluetoothPopup, some 7⟩ } :=
    .ask (.ask (.ask (.ask (.done _))))
  have hagain : ({ face with popup := ⟨.bluetoothPopup, some 7⟩ }.react
      (.event (.connection true))).Trace
      [⟨.markDirty, ()⟩, ⟨.doublePulse, .ok ()⟩, ⟨.enableInteraction, .ok ()⟩,
        ⟨.reschedule 7 5000, .error .invalidHandle⟩, ⟨.schedule 5000 .bluetoothPopup, .ok 8⟩]
      face :=
    .ask (.ask (.ask (.ask (.ask (.done _)))))
  have hpending : Reachable .colorRect ⟨[⟨7, .bluetoothPopup, 5000⟩], [], [7], 0⟩
      { face with popup := ⟨.bluetoothPopup, some 7⟩ } :=
    .react .fresh rfl hshown (.answer (.other rfl) (.answer (.other rfl) (.answer (.other rfl)
      (.answer (.scheduled (by decide)) .idle))))
  have hexpires : Moves ⟨[⟨7, .bluetoothPopup, 5000⟩], [], [7], 5000⟩
      ⟨[], [⟨.bluetoothPopup, 7⟩], [7], 5000⟩ :=
    @Moves.expire _ [] [] ⟨7, .bluetoothPopup, 5000⟩ rfl (by decide)
  have hexpired := (hpending.move (.wait 5000)).move hexpires
  have hreachable : Reachable .colorRect service face :=
    .react hexpired rfl hagain (.answer (.other rfl) (.answer (.other rfl) (.answer (.other rfl)
      (.answer (.gone (by decide)) (.answer (.scheduled (by decide)) .idle)))))
  have hsingle := one_timer_for_each_purpose hreachable .bluetoothPopup
  exact ⟨hreachable, hsingle.1, hsingle.2.1⟩

end Watchface.Face
