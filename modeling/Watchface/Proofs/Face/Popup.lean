import Watchface.Proofs.Face.Run

/-!
# The popup and its alarm

The popup is shown just as long as there is an alarm to hide it.  Whatever the
host answers, the face shows the popup only once the alarm is armed, takes it
back when the alarm is lost, and hides it when the alarm goes off.
-/

namespace Watchface

namespace Alarm

variable {alarm armed : Alarm} {delay : UInt32} {log : List Exchange}
  {result : Except ServiceError Unit}

theorem Arms.isPending_of_ok (h : alarm.Arms delay log result armed) (ok : result = .ok ()) :
    armed.isPending = true := by
  cases h with
  | scheduled | replaced => rfl
  | moved pending => rw [Alarm.isPending, pending, Option.isSome_some]
  | unscheduled | kept | lost => contradiction

end Alarm

namespace Face

variable {platform : Platform} {face after : Face} {log opening : List Exchange}
  {turns : List Turn} {input : Input}

theorem Connects.popupShown_eq {connected : Bool} (h : face.Connects connected log after)
    (agrees : face.popupShown = face.popup.isPending) :
    after.popupShown = after.popup.isPending := by
  cases h with
  | silent => exact agrees
  | @announced pulse arming light result popup _ _ arms =>
      cases result with
      | ok => exact (arms.isPending_of_ok rfl).symm
      | error cause => rfl

theorem Reacts.popupShown_eq (h : face.Reacts input log after)
    (agrees : face.popupShown = face.popup.isPending) :
    after.popupShown = after.popup.isPending := by
  cases h with
  | tick | unreadable | stale | abandoned => exact agrees
  | connection connects => exact connects.popupShown_eq agrees
  | message _ receives =>
      obtain ⟨now, unit, refresh, -, rfl⟩ := receives.frame
      exact agrees
  | dismissed => rfl
  | elapsed _ _ refreshes | refresh refreshes =>
      obtain ⟨refresh, rfl⟩ := refreshes.frame
      exact agrees

theorem Reacts.popup_of_timer {purpose : Purpose} {found handle : Handle}
    (h : face.Reacts (.event (.timer purpose found)) log after)
    (pending : after.popup.pending = some handle) :
    face.popup.pending = some handle ∧ ¬ (purpose = .bluetoothPopup ∧ found = handle) := by
  cases h with
  | stale stale =>
      refine ⟨pending, ?_⟩
      rintro ⟨rfl, rfl⟩
      exact stale pending
  | dismissed => contradiction
  | abandoned => exact ⟨pending, by simp⟩
  | elapsed _ _ refreshes =>
      obtain ⟨refresh, rfl⟩ := refreshes.frame
      exact ⟨pending, by simp⟩

theorem Run.popupShown_eq (run : Run platform opening turns face) :
    face.popupShown = face.popup.isPending := by
  induction run with
  | fresh => rfl
  | started start =>
      rw [(trace_start start).1]
      rfl
  | turn _ reacts ih => exact (reacts_of_trace reacts).popupShown_eq ih

/-- Whatever the host answers, after every turn the popup is shown iff its alarm is pending. -/
theorem popup_shown_iff_alarm_pending (run : Run platform opening turns face) :
    (face.popupShown = true ↔ face.popup.isPending = true) ∧
      ∀ turn ∈ turns, turn.after.popupShown = true ↔ turn.after.popup.isPending = true := by
  refine ⟨Bool.eq_iff_iff.mp run.popupShown_eq, fun turn mem => ?_⟩
  obtain ⟨before, behind, rfl⟩ := List.append_of_mem mem
  obtain ⟨hbefore, hreacts⟩ := run.cut
  exact Bool.eq_iff_iff.mp (hbefore.turn hreacts).popupShown_eq

/-- The second trigger loses the timer of the first and gets no new one, so the popup goes too. -/
theorem popup_hidden_once_alarm_is_lost :
    let face := ofPlatform .colorRect
    let shown : Face := { face with popup := ⟨.bluetoothPopup, some 7⟩, popupShown := true }
    let first : Turn := ⟨face, .event (.connection false),
      [⟨.markDirty, ()⟩, ⟨.doublePulse, .error .unavailable⟩, ⟨.enableInteraction, .ok ()⟩,
        ⟨.schedule 5000 .bluetoothPopup, .ok 7⟩], shown⟩
    let second : Turn := ⟨shown, .event (.connection true),
      [⟨.markDirty, ()⟩, ⟨.doublePulse, .ok ()⟩, ⟨.enableInteraction, .error .busy⟩,
        ⟨.reschedule 7 5000, .error .invalidHandle⟩,
        ⟨.schedule 5000 .bluetoothPopup, .error .outOfMemory⟩], face⟩
    Run .colorRect [] [first, second] face ∧
      (face.popupShown = true ↔ face.popup.isPending = true) ∧
      (shown.popupShown = true ↔ shown.popup.isPending = true) := by
  intro face shown first second
  have hfirst : (face.react first.input).Trace first.log shown :=
    .ask (.ask (.ask (.ask (.done _))))
  have hsecond : (shown.react second.input).Trace second.log face :=
    .ask (.ask (.ask (.ask (.ask (.done _)))))
  have hrun : Run .colorRect [] [first, second] face := .turn (.turn .fresh hfirst) hsecond
  have hagrees := popup_shown_iff_alarm_pending hrun
  exact ⟨hrun, hagrees.1, hagrees.2 first List.mem_cons_self⟩

end Face

end Watchface
