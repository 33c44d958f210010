import Watchface.Proofs.Face.Refreshing
import Watchface.Proofs.Face.SingleTimer
import Watchface.Proofs.Host.Deadline

/-!
# What a turn does to the timers

On a service that only answers, a turn leaves all timers as they are, or sets
the timer of the popup, or updates the weather.  An update sets the refresh
timer, if the script is ready, refresh is on and no call is refused.
-/

namespace Watchface.Face

open TimerService (Replies replies_nil_iff)

variable {service next : TimerService} {face after : Face} {log : List Exchange}
  {rest : List Expiry}

/-- What an update makes of the timers, seen from the face afterwards. -/
inductive Retimes (face : Face) (log : List Exchange) (service next : TimerService) : Prop
  | waiting (waiting : face.scriptReady = false) (same : next = service)
  | off (off : face.settings.weatherRefresh = 0) (same : next = service)
  | failed (failed : ¬ (Schedules log ∧ Reschedules log)) (same : next = service)
  | set {delay : UInt32} (on : face.settings.refreshDelay? = some delay)
      (sets : service.Sets .weatherRefresh delay next)

theorem Retimes.mono {behind : List Exchange} (h : face.Retimes log service next)
    (sub : log ⊆ behind) : face.Retimes behind service next := by
  cases h with
  | waiting waiting same => exact .waiting waiting same
  | off off same => exact .off off same
  | failed failed same =>
      exact .failed (fun works => failed ⟨works.1.mono sub, works.2.mono sub⟩) same
  | set on sets => exact .set on sets

theorem Synchronized.sets_of_arms (h : Synchronized service face) (purpose : Purpose)
    {armed : Alarm} {delay : UInt32} {result : Except ServiceError Unit}
    (arms : (face.alarm purpose).Arms delay log result armed)
    (replies : Replies service log next) :
    (result = .ok () ∧ service.Sets purpose delay next) ∨
      ((∃ cause, result = .error cause) ∧ next = service) := by
  have hpurpose := h.purposes purpose
  have howner : face.pending (face.alarm purpose).purpose = (face.alarm purpose).pending := by
    rw [hpurpose, pending]
  have hsets := h.tracks.sets_of_arms howner arms replies
  rwa [hpurpose] at hsets

theorem Synchronized.retimes {force : Bool} (h : Synchronized service face)
    (refreshes : face.Refreshes force log after) (replies : Replies service log next) :
    after.Retimes log service next := by
  cases refreshes with
  | waiting waiting => exact .waiting waiting (replies_nil_iff.mp replies)
  | @ready request arming _ ready requests rearms =>
      have harming := replies.of_quiet_append (quiet_requests requests)
      cases rearms with
      | off off => exact .off (refreshDelay?_eq_none_iff.mp off) (replies_nil_iff.mp harming)
      | on on arms =>
          rcases h.sets_of_arms .weatherRefresh arms harming with
            ⟨-, hsets⟩ | ⟨⟨cause, herror⟩, hsame⟩
          · exact .set on hsets
          · refine .failed (fun works => ?_) hsame
            have hsub := List.subset_append_right request arming
            have hok := arms.result_eq_ok (works.1.mono hsub) (works.2.mono hsub)
            rw [herror] at hok
            contradiction

inductive Times (face : Face) (input : Input) (log : List Exchange) (after : Face)
    (service next : TimerService) : Prop
  | still (passive : ¬ face.Updates input) (ready : after.scriptReady = face.scriptReady)
      (interval : after.settings.weatherRefresh = face.settings.weatherRefresh)
      (same : next = service)
  | popup (passive : ¬ face.Updates input) (ready : after.scriptReady = face.scriptReady)
      (interval : after.settings.weatherRefresh = face.settings.weatherRefresh)
      (sets : service.Sets .bluetoothPopup popupDelay next)
  | updated (updates : face.Updates input) (retimes : after.Retimes log service next)

theorem Synchronized.times_connects {connected : Bool} (h : Synchronized service face)
    (connects : face.Connects connected log after) (replies : Replies service log next) :
    face.Times (.event (.connection connected)) log after service next := by
  cases connects with
  | silent _ vibrates =>
      have hquiet := quiet_vibrates vibrates
      exact .still id rfl rfl (replies.eq_of_quiet (by simpa using hquiet))
  | @announced pulse arming light result popup _ vibrates arms =>
      have hquiet := quiet_vibrates vibrates
      rw [List.append_cons] at replies
      have harming := replies.of_quiet_append (by simpa using hquiet)
      rcases h.sets_of_arms .bluetoothPopup arms harming with ⟨-, hsets⟩ | ⟨-, hsame⟩
      · exact .popup id rfl rfl hsets
      · exact .still id rfl rfl hsame

theorem Synchronized.sets_of_connects {connected : Bool} (h : Synchronized service face)
    (announces : face.settings.announces connected = true)
    (connects : face.Connects connected log after) (replies : Replies service log next)
    (works : Schedules log ∧ Reschedules log) :
    service.Sets .bluetoothPopup popupDelay next ∧ after.popupShown = true := by
  cases connects with
  | silent silent =>
      rw [silent] at announces
      contradiction
  | @announced pulse arming light result popup _ vibrates arms =>
      have hquiet := quiet_vibrates vibrates
      rw [List.append_cons] at replies works
      have harming := replies.of_quiet_append (by simpa using hquiet)
      have hsub := List.subset_append_right
        (⟨.markDirty, ()⟩ :: pulse ++ [⟨.enableInteraction, light⟩]) arming
      obtain rfl := arms.result_eq_ok (works.1.mono hsub) (works.2.mono hsub)
      rcases h.sets_of_arms .bluetoothPopup arms harming with ⟨-, hsets⟩ | ⟨⟨cause, herror⟩, -⟩
      · exact ⟨hsets, rfl⟩
      · contradiction

theorem Synchronized.times_receives {payload : Bytes} {message : Dictionary}
    (h : Synchronized service face) (readable : Dictionary.parse payload = .ok message)
    (receives : face.Receives message log after) (replies : Replies service log next) :
    face.Times (.event (.inbox payload)) log after service next := by
  cases receives with
  | @quiet tuning tuned now quiet retunes =>
      have hpassive : ¬ face.Updates (.event (.inbox payload)) := by
        rintro ⟨other, hother, hroused⟩
        rw [readable, Except.ok.injEq] at hother
        rw [← hother, quiet] at hroused
        contradiction
      obtain ⟨hunready, hinterval⟩ := still_of_quiet quiet
      have hretunes := quiet_retunes retunes
      obtain ⟨unit, rfl⟩ := retunes.frame
      refine .still hpassive ?_ hinterval (replies.eq_of_quiet (by simpa using hretunes))
      simp [takeWeather, settled, hunready]
  | @roused tuning weather tuned _ now roused retunes refreshes =>
      have hretunes := quiet_retunes retunes
      rw [List.append_cons] at replies
      have hweather := replies.of_quiet_append (by simpa using hretunes)
      obtain ⟨unit, rfl⟩ := retunes.frame
      have htuned : Synchronized service
          ({ face.settled message with tickUnit := unit }.takeWeather message now) :=
        h.congr (alarm_congr rfl rfl)
      have hretimes := htuned.retimes refreshes hweather
      exact .updated ⟨message, readable, roused⟩
        (hretimes.mono (subset_roused tuning weather now))

theorem Synchronized.times {input : Input} (h : Synchronized service face)
    (untimed : input.isTimer = false) (reacts : face.Reacts input log after)
    (replies : Replies service log next) : face.Times input log after service next := by
  cases reacts with
  | tick => exact .still id rfl rfl (replies.eq_of_quiet (by simp))
  | connection connects => exact h.times_connects connects replies
  | unreadable unreadable =>
      refine .still ?_ rfl rfl (replies_nil_iff.mp replies)
      simp [Updates, unreadable]
  | message readable receives => exact h.times_receives readable receives replies
  | stale | dismissed | abandoned | elapsed => contradiction
  | refresh refreshes => exact .updated trivial (h.retimes refreshes replies)

theorem Synchronized.times_delivered {before behind : List Expiry} {expiry : Expiry}
    (h : Synchronized service face)
    (undelivered : service.undelivered = before ++ expiry :: behind)
    (reacts : face.Reacts (.event (.timer expiry.purpose expiry.handle)) log after)
    (replies : Replies { service with undelivered := before ++ behind } log next) :
    face.Times (.event (.timer expiry.purpose expiry.handle)) log after
      { service with undelivered := before ++ behind } next := by
  obtain ⟨purpose, handle⟩ := expiry
  cases reacts with
  | stale stale =>
      refine .still ?_ rfl rfl (replies_nil_iff.mp replies)
      cases purpose with
      | bluetoothPopup => exact id
      | weatherRefresh => exact fun hupdates => stale hupdates.1
  | dismissed => exact .still id rfl rfl (replies.eq_of_quiet (by simp))
  | abandoned _ off =>
      exact .still (fun hupdates => hupdates.2 off) rfl rfl (replies_nil_iff.mp replies)
  | elapsed awaited on refreshes =>
      have hfired : Synchronized { service with undelivered := before ++ behind }
          { face with refresh := { face.refresh with pending := none } } :=
        h.fires undelivered awaited (alarm_setRefresh rfl rfl)
      exact .updated ⟨awaited, on⟩ (hfired.retimes refreshes replies)

/-! ## Deadlines -/

theorem toNat_refreshDelay {settings : Settings} {delay : UInt32}
    (h : settings.refreshDelay? = some delay) :
    delay.toNat = settings.weatherRefresh.toNat * 60000 := by
  unfold Settings.refreshDelay? at h
  split at h
  · contradiction
  · rw [Option.some.injEq] at h
    have hsize := settings.weatherRefresh.toNat_lt
    rw [← h, UInt32.toNat_mul, UInt32.toNat_mul, UInt16.toNat_toUInt32]
    simp only [UInt32.reduceToNat]
    omega

theorem toNat_refreshDelay_pos {settings : Settings} {delay : UInt32}
    (h : settings.refreshDelay? = some delay) : 0 < delay.toNat := by
  have hon : settings.weatherRefresh ≠ 0 := by
    intro hoff
    rw [refreshDelay?_eq_none_iff.mpr hoff] at h
    contradiction
  have hpositive : settings.weatherRefresh.toNat ≠ 0 := fun hzero =>
    hon (UInt16.toNat_inj.mp hzero)
  rw [toNat_refreshDelay h]
  omega

/-- While the face refreshes, its refresh timers are due at a certain distance from now. -/
def RefreshesWithin (distance : Nat → Nat → Prop) (service : TimerService) (face : Face) : Prop :=
  face.scriptReady = true → face.settings.weatherRefresh ≠ 0 →
    ∀ timer ∈ service.timersOf .weatherRefresh,
      distance timer.deadline (service.elapsed + face.settings.weatherRefresh.toNat * 60000)

variable {input : Input} {distance : Nat → Nat → Prop}

theorem Times.ahead (h : face.Times input log after service next) (ahead : service.Ahead) :
    next.Ahead := by
  cases h with
  | still _ _ _ same =>
      rw [same]
      exact ahead
  | popup _ _ _ sets => exact sets.ahead ahead (by decide)
  | updated _ retimes =>
      cases retimes with
      | waiting _ same | off _ same | failed _ same =>
          rw [same]
          exact ahead
      | set on sets => exact sets.ahead ahead (toNat_refreshDelay_pos on)

def HidesInTime (service : TimerService) : Prop :=
  ∀ timer ∈ service.timersOf .bluetoothPopup,
    timer.deadline ≤ service.elapsed + popupDelay.toNat

theorem Times.hidesInTime (h : face.Times input log after service next)
    (before : HidesInTime service) : HidesInTime next := by
  cases h with
  | still _ _ _ same => rwa [same]
  | popup _ _ _ sets =>
      intro timer hmem
      obtain ⟨handle, hset⟩ := sets.timer
      rw [hset, List.mem_singleton] at hmem
      have hdeadline : timer.deadline = next.elapsed + popupDelay.toNat := by
        rw [hmem, sets.elapsed]
      exact Nat.le_of_eq hdeadline
  | updated _ retimes =>
      cases retimes with
      | waiting _ same | off _ same | failed _ same => rwa [same]
      | set _ sets => rwa [HidesInTime, sets.elapsed, sets.others _ (by decide)]

theorem Retimes.refreshesWithin (h : face.Retimes log service next)
    (works : Schedules log ∧ Reschedules log) (self : ∀ deadline, distance deadline deadline) :
    RefreshesWithin distance next face := by
  intro hready hon timer hmem
  cases h with
  | waiting waiting =>
      rw [waiting] at hready
      contradiction
  | off off => exact absurd off hon
  | failed failed => exact absurd works failed
  | set delay? sets =>
      obtain ⟨handle, hset⟩ := sets.timer
      rw [hset, List.mem_singleton] at hmem
      rw [hmem, sets.elapsed, toNat_refreshDelay delay?]
      exact self _

theorem Times.refreshesWithin (h : face.Times input log after service next)
    (works : Schedules log ∧ Reschedules log) (self : ∀ deadline, distance deadline deadline)
    (before : face.Updates input ∨ RefreshesWithin distance service face) :
    RefreshesWithin distance next after := by
  cases h with
  | still passive ready interval same =>
      have hbefore := before.resolve_left passive
      rwa [RefreshesWithin, ready, interval, same]
  | popup passive ready interval sets =>
      have hbefore := before.resolve_left passive
      rwa [RefreshesWithin, ready, interval, sets.elapsed, sets.others _ (by decide)]
  | updated _ retimes => exact retimes.refreshesWithin works self

end Watchface.Face
