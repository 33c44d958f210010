import Watchface.Proofs.Face.SingleTimer

/-!
# The alarms in a reaction

The face accepts an expiry if the alarm of its purpose waits for just that
handle, and then the alarm is idle.  After that a reaction arms no more than
one alarm, and does so last: `Winds` says this of the two alarms and the log,
for all kinds of reactions at once.  An expiry that is not accepted does
nothing at all.
-/

namespace Watchface.Face

variable {face after : Face} {input : Input} {log : List Exchange}
  {alarms wound : Purpose → Alarm}

/-- The expiry that an input delivers, if the alarm of its purpose goes off with it. -/
def accepted? (face : Face) : Input → Option Expiry
  | .event (.timer purpose handle) =>
      if ((face.alarm purpose).fire? handle).isSome then some ⟨purpose, handle⟩ else none
  | _ => none

theorem accepted?_timer (face : Face) (purpose : Purpose) (handle : Handle) :
    face.accepted? (.event (.timer purpose handle)) =
      if face.pending purpose = some handle then some ⟨purpose, handle⟩ else none := by
  by_cases hpending : face.pending purpose = some handle
  · have hfires : (face.alarm purpose).fire? handle = some (.idle (face.alarm purpose).purpose) :=
      Alarm.fire?_eq_some_iff.mpr ⟨hpending, rfl⟩
    simp [accepted?, hfires, hpending]
  · have hstale : (face.alarm purpose).pending ≠ some handle := hpending
    simp [accepted?, Alarm.fire?, hstale, hpending]

theorem accepted?_eq_some_iff {expiry : Expiry} :
    face.accepted? input = some expiry ↔
      input = .event (.timer expiry.purpose expiry.handle) ∧
        face.pending expiry.purpose = some expiry.handle := by
  rcases input with (_ | connected | payload | ⟨purpose, handle⟩) | force
  case event.timer =>
    rw [accepted?_timer]
    split
    · next hpending =>
      constructor
      · rintro ⟨⟩
        exact ⟨rfl, hpending⟩
      · rintro ⟨⟨⟩, -⟩
        rfl
    · next hstale =>
      simp only [reduceCtorEq, false_iff, not_and]
      rintro ⟨⟩
      exact hstale
  all_goals simp [accepted?]

/-- The alarms that a reaction begins with: an accepted expiry leaves its own idle. -/
def alarmsAt (face : Face) (input : Input) (purpose : Purpose) : Alarm :=
  if (face.accepted? input).map Expiry.purpose = some purpose then
    { face.alarm purpose with pending := none }
  else face.alarm purpose

theorem alarmsAt_of_none (h : face.accepted? input = none) :
    face.alarmsAt input = face.alarm := by
  funext purpose
  simp [alarmsAt, h]

theorem alarmsAt_of_some {expiry : Expiry} (h : face.accepted? input = some expiry) :
    face.alarmsAt input = Function.update face.alarm expiry.purpose
      { face.alarm expiry.purpose with pending := none } := by
  funext purpose
  by_cases heq : purpose = expiry.purpose
  · simp [alarmsAt, h, heq]
  · rw [Function.update_of_ne heq]
    simp [alarmsAt, h, Ne.symm heq]

theorem purpose_alarmsAt (face : Face) (input : Input) (purpose : Purpose) :
    (face.alarmsAt input purpose).purpose = (face.alarm purpose).purpose := by
  unfold alarmsAt
  split <;> rfl

theorem pending_of_alarmsAt {purpose : Purpose} {handle : Handle}
    (h : (face.alarmsAt input purpose).pending = some handle) :
    face.pending purpose = some handle ∧
      (face.accepted? input).map Expiry.purpose ≠ some purpose := by
  unfold alarmsAt at h
  split at h
  · contradiction
  · next hother => exact ⟨h, hother⟩

/-! ## Winding -/

/-- One alarm at most is armed, at the end of a log that is otherwise quiet. -/
inductive Winds (alarms : Purpose → Alarm) : List Exchange → (Purpose → Alarm) → Prop
  | still {log : List Exchange} {wound : Purpose → Alarm} (quiet : Quiet log)
      (same : wound = alarms) : Winds alarms log wound
  | armed {before arming : List Exchange} {wound : Purpose → Alarm} {purpose : Purpose}
      {delay : UInt32} {result : Except ServiceError Unit} {alarm : Alarm}
      (quiet : Quiet before) (arms : (alarms purpose).Arms delay arming result alarm)
      (changed : wound = Function.update alarms purpose alarm) :
      Winds alarms (before ++ arming) wound

theorem Winds.after_quiet {before : List Exchange} (h : Winds alarms log wound)
    (quiet : Quiet before) : Winds alarms (before ++ log) wound := by
  cases h with
  | still rest same => exact .still (quiet_append.mpr ⟨quiet, rest⟩) same
  | armed rest arms changed =>
      rw [← List.append_assoc]
      exact .armed (quiet_append.mpr ⟨quiet, rest⟩) arms changed

theorem Winds.purpose_eq (h : Winds alarms log wound) (purpose : Purpose) :
    (wound purpose).purpose = (alarms purpose).purpose := by
  cases h with
  | still _ same => rw [same]
  | @armed _ _ _ armed _ _ alarm _ arms changed =>
      rw [changed]
      by_cases heq : purpose = armed
      · rw [heq, Function.update_self, arms.purpose_eq]
      · rw [Function.update_of_ne heq]

theorem Refreshes.winds {force : Bool} (h : face.Refreshes force log after) :
    Winds face.alarm log after.alarm := by
  cases h with
  | waiting => exact .still quiet_nil rfl
  | ready _ requests rearms =>
      have hquiet := quiet_requests requests
      cases rearms with
      | off => exact .still (quiet_append.mpr ⟨hquiet, quiet_nil⟩) rfl
      | @on _ _ _ refresh _ arms =>
          have harms : (face.alarm .weatherRefresh).Arms _ _ _ refresh := arms
          exact .armed hquiet harms (alarm_setRefresh rfl rfl)

theorem Connects.winds {connected : Bool} (h : face.Connects connected log after) :
    Winds face.alarm log after.alarm := by
  cases h with
  | silent _ vibrates =>
      have hquiet := quiet_vibrates vibrates
      exact .still (by simpa using hquiet) rfl
  | @announced pulse arming light result popup _ vibrates arms =>
      have hquiet := quiet_vibrates vibrates
      have harms : (face.alarm .bluetoothPopup).Arms popupDelay arming result popup := arms
      rw [List.append_cons]
      exact .armed (by simpa using hquiet) harms (alarm_setPopup rfl rfl)

theorem Receives.winds {message : Dictionary} (h : face.Receives message log after) :
    Winds face.alarm log after.alarm := by
  cases h with
  | quiet _ retunes =>
      have hquiet := quiet_retunes retunes
      obtain ⟨unit, rfl⟩ := retunes.frame
      exact .still (by simpa using hquiet) rfl
  | @roused tuning weather _ _ _ _ retunes refreshes =>
      have hquiet := quiet_retunes retunes
      obtain ⟨unit, rfl⟩ := retunes.frame
      have hwinds : Winds face.alarm weather after.alarm := refreshes.winds
      rw [List.append_cons]
      exact hwinds.after_quiet (by simpa using hquiet)

/-- The step lemma: what a reaction does to the alarms, an accepted expiry taken first. -/
theorem Reacts.winds (h : face.Reacts input log after) :
    Winds (face.alarmsAt input) log after.alarm := by
  cases h with
  | tick => exact .still (by simp) rfl
  | connection connects => exact connects.winds
  | unreadable => exact .still quiet_nil rfl
  | message _ receives => exact receives.winds
  | stale stale =>
      have hstale := (face.accepted?_timer _ _).trans (if_neg stale)
      exact .still quiet_nil (alarmsAt_of_none hstale).symm
  | dismissed pending =>
      have haccepted := (face.accepted?_timer .bluetoothPopup _).trans (if_pos pending)
      rw [alarmsAt_of_some haccepted]
      exact .still (by simp) (alarm_setPopup rfl rfl)
  | abandoned pending =>
      have haccepted := (face.accepted?_timer .weatherRefresh _).trans (if_pos pending)
      rw [alarmsAt_of_some haccepted]
      exact .still quiet_nil (alarm_setRefresh rfl rfl)
  | elapsed pending _ refreshes =>
      have haccepted := (face.accepted?_timer .weatherRefresh _).trans (if_pos pending)
      have hfired : ({ face with refresh := { face.refresh with pending := none } } : Face).alarm =
          Function.update face.alarm .weatherRefresh { face.refresh with pending := none } :=
        alarm_setRefresh rfl rfl
      rw [alarmsAt_of_some haccepted]
      exact hfired ▸ refreshes.winds
  | refresh refreshes => exact refreshes.winds

theorem Run.purpose_eq {platform : Platform} {opening : List Exchange} {turns : List Turn}
    (run : Run platform opening turns face) (purpose : Purpose) :
    (face.alarm purpose).purpose = purpose := by
  have hfresh : ((ofPlatform platform).alarm purpose).purpose = purpose := by
    cases purpose <;> rfl
  induction run with
  | fresh => exact hfresh
  | started start =>
      rw [(trace_start start).1]
      exact hfresh
  | turn _ reacts ih =>
      rw [(reacts_of_trace reacts).winds.purpose_eq, purpose_alarmsAt, ih]

theorem Reacts.eq_of_not_accepted {purpose : Purpose} {handle : Handle}
    (h : face.Reacts (.event (.timer purpose handle)) log after)
    (stale : face.accepted? (.event (.timer purpose handle)) = none) :
    after = face ∧ log = [] := by
  have hstale : face.pending purpose ≠ some handle := by
    intro hpending
    rw [accepted?_timer, if_pos hpending] at stale
    contradiction
  cases h with
  | stale => exact ⟨rfl, rfl⟩
  | dismissed pending | abandoned pending | elapsed pending => exact absurd pending hstale

end Watchface.Face
