import Watchface.Proofs.Face.Run

/-!
# Periodic refresh

A face updates its weather from outside, when its refresh timer goes off, or
for a message that rouses it.  Each update arms the refresh alarm again, and
nothing else takes it away.  So on a host that schedules timers the alarm is
pending as long as the script is ready and refresh is on.
-/

namespace Watchface.Face

variable {platform : Platform} {face after : Face} {log opening : List Exchange}
  {turns : List Turn}

structure Refreshing (face : Face) : Prop where
  pending : face.scriptReady = true → face.settings.weatherRefresh ≠ 0 →
    face.refresh.isPending = true
  idle : face.scriptReady = false → face.refresh.pending = none

theorem refreshing_ofPlatform : (ofPlatform platform).Refreshing :=
  ⟨fun ready => absurd ready Bool.false_ne_true, fun _ => rfl⟩

theorem Refreshing.congr (h : face.Refreshing) (ready : after.scriptReady = face.scriptReady)
    (interval : after.settings.weatherRefresh = face.settings.weatherRefresh)
    (refresh : after.refresh = face.refresh) : after.Refreshing := by
  constructor
  case pending =>
    rw [ready, interval, refresh]
    exact h.pending
  case idle =>
    rw [ready, refresh]
    exact h.idle

theorem refreshDelay?_eq_none_iff {settings : Settings} :
    settings.refreshDelay? = none ↔ settings.weatherRefresh = 0 := by
  simp [Settings.refreshDelay?]

theorem Refreshes.refreshing {force : Bool} (h : face.Refreshes force log after)
    (idle : face.scriptReady = false → face.refresh.pending = none)
    (schedules : Schedules log) : after.Refreshing := by
  cases h with
  | waiting waiting => exact ⟨fun ready => absurd ready (by simp [waiting]), idle⟩
  | ready ready _ rearms =>
      have hidle : face.scriptReady ≠ false := by simp [ready]
      cases rearms with
      | off off => exact ⟨fun _ on => absurd (refreshDelay?_eq_none_iff.mp off) on,
          fun waiting => absurd waiting hidle⟩
      | on _ arms =>
          have hpending := arms.isPending (schedules.mono (List.subset_append_right _ _))
          exact ⟨fun _ _ => hpending, fun waiting => absurd waiting hidle⟩

theorem still_of_quiet {message : Dictionary} (quiet : face.rouses message = false) :
    (message.find? Message.scriptReady.key).isSome = false ∧
      (face.settled message).settings.weatherRefresh = face.settings.weatherRefresh := by
  rw [rouses, Bool.or_eq_false_iff] at quiet
  refine ⟨quiet.1, ?_⟩
  simpa [Settings.merge, Settings.update, settled, settings] using quiet.2

theorem subset_roused (tuning weather : List Exchange) (now : UInt32) :
    weather ⊆ ⟨.markDirty, ()⟩ :: tuning ++ ⟨.readClock, now⟩ :: weather := by
  intro exchange hmem
  simp [hmem]

theorem Receives.refreshing {message : Dictionary} (h : face.Receives message log after)
    (refreshing : face.Refreshing) (schedules : Schedules log) : after.Refreshing := by
  cases h with
  | @quiet tuning tuned now quiet retunes =>
      obtain ⟨hunready, hinterval⟩ := still_of_quiet quiet
      obtain ⟨unit, rfl⟩ := retunes.frame
      refine refreshing.congr ?_ hinterval rfl
      simp [takeWeather, settled, hunready]
  | @roused tuning weather tuned _ now _ retunes refreshes =>
      obtain ⟨unit, rfl⟩ := retunes.frame
      refine refreshes.refreshing ?_ (schedules.mono (subset_roused tuning weather now))
      intro hwaiting
      rw [takeWeather, Bool.or_eq_false_iff] at hwaiting
      exact refreshing.idle hwaiting.1

theorem Reacts.refreshing {input : Input} (h : face.Reacts input log after)
    (refreshing : face.Refreshing) (schedules : Schedules log) : after.Refreshing := by
  cases h with
  | tick | unreadable | stale => exact refreshing
  | connection connects =>
      obtain ⟨popup, shown, rfl⟩ := connects.frame
      exact refreshing.congr rfl rfl rfl
  | message _ receives => exact receives.refreshing refreshing schedules
  | dismissed => exact refreshing.congr rfl rfl rfl
  | abandoned _ off => exact ⟨fun _ on => absurd off on, fun _ => rfl⟩
  | elapsed _ _ refreshes => exact refreshes.refreshing (fun _ => rfl) schedules
  | refresh refreshes => exact refreshes.refreshing refreshing.idle schedules

theorem Run.refreshing (run : Run platform opening turns face)
    (schedules : ∀ turn ∈ turns, Schedules turn.log) : face.Refreshing := by
  induction run with
  | fresh => exact refreshing_ofPlatform
  | started start =>
      rw [(trace_start start).1]
      exact refreshing_ofPlatform
  | turn _ reacts ih =>
      have hbefore := ih fun turn hmem => schedules turn (List.mem_append_left _ hmem)
      have hlast := schedules _ (List.mem_append_right _ List.mem_cons_self)
      exact (reacts_of_trace reacts).refreshing hbefore hlast

/-- Does the input make the face update its weather, as far as the script is ready? -/
def Updates (face : Face) : Input → Prop
  | .refresh _ => True
  | .event (.inbox payload) =>
      ∃ message, Dictionary.parse payload = .ok message ∧ face.rouses message = true
  | .event (.timer .weatherRefresh handle) =>
      face.refresh.pending = some handle ∧ face.settings.weatherRefresh ≠ 0
  | .event _ => False

end Watchface.Face
