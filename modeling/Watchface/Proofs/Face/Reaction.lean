import Watchface.Face
import Watchface.Proofs.Host.Arming

/-!
# Reactions of the face

`Reacts` lists every way in which the face can react to an input: the calls it
makes, with whatever answers, and the face afterwards.  Its parts follow the
handlers.  By `reacts_of_trace` there are no other ways, so an invariant of
the face is shown by going through the cases of `Reacts` once.
-/

namespace Watchface.Face

open Dialogue (trace_bind_iff trace_attempt_bind_iff trace_call_bind_iff trace_done_iff)

variable {face after : Face} {log : List Exchange}

inductive Requests (face : Face) : Bool → List Exchange → Prop
  | forced {payload : Bytes} {answer : Except ServiceError Unit}
      (request : Channel.fetchRequest = .ok payload) :
      Requests face true [⟨.send payload, answer⟩]
  | due {payload : Bytes} {answer : Except ServiceError Unit} {now : UInt32}
      (request : Channel.fetchRequest = .ok payload)
      (isDue : face.weather.isDue now face.settings.weatherRefresh = true) :
      Requests face false [⟨.readClock, now⟩, ⟨.send payload, answer⟩]
  | fresh {now : UInt32}
      (isFresh : face.weather.isDue now face.settings.weatherRefresh = false) :
      Requests face false [⟨.readClock, now⟩]

inductive Rearms (face : Face) : List Exchange → Face → Prop
  | off (off : face.settings.refreshDelay? = none) : Rearms face [] face
  | on {delay : UInt32} {log : List Exchange} {result : Except ServiceError Unit}
      {refresh : Alarm} (on : face.settings.refreshDelay? = some delay)
      (arms : face.refresh.Arms delay log result refresh) :
      Rearms face log { face with refresh := refresh }

inductive Refreshes (face : Face) (force : Bool) : List Exchange → Face → Prop
  | waiting (waiting : face.scriptReady = false) : Refreshes face force [] face
  | ready {request arming : List Exchange} {after : Face} (ready : face.scriptReady = true)
      (requests : face.Requests force request) (rearms : face.Rearms arming after) :
      Refreshes face force (request ++ arming) after

theorem fetchRequest_eq : Channel.fetchRequest = .ok [1, 107, 0, 0, 0, 2, 1, 0, 1] := rfl

theorem trace_requestWeather (h : requestWeather.Trace log ()) :
    ∃ payload answer, Channel.fetchRequest = .ok payload ∧ log = [⟨.send payload, answer⟩] := by
  unfold requestWeather at h
  rw [fetchRequest_eq] at h
  obtain ⟨answer, rfl⟩ := Dialogue.trace_attempt_iff.mp h
  exact ⟨_, answer, fetchRequest_eq, rfl⟩

theorem requests_of_trace {force : Bool} (h : (face.requestIfDue force).Trace log ()) :
    face.Requests force log := by
  unfold requestIfDue at h
  split at h
  · next hforce =>
    subst hforce
    obtain ⟨payload, answer, hrequest, rfl⟩ := trace_requestWeather h
    exact .forced hrequest
  · next hforce =>
    rw [Bool.not_eq_true] at hforce
    subst hforce
    obtain ⟨now, rest, rfl, hrest⟩ := trace_call_bind_iff.mp h
    split at hrest
    · next hdue =>
      obtain ⟨payload, answer, hrequest, rfl⟩ := trace_requestWeather hrest
      exact .due hrequest hdue
    · next hdue =>
      rw [Bool.not_eq_true] at hdue
      have hrest := (trace_done_iff.mp hrest).1
      subst hrest
      exact .fresh hdue

theorem rearms_of_trace (h : face.armRefresh.Trace log after) : face.Rearms log after := by
  unfold armRefresh at h
  split at h
  · next hoff =>
    obtain ⟨rfl, rfl⟩ := trace_done_iff.mp h
    exact .off hoff
  · next delay hon =>
    obtain ⟨⟨result, refresh⟩, first, second, harm, hrest, rfl⟩ := trace_bind_iff.mp h
    obtain ⟨rfl, rfl⟩ := trace_done_iff.mp hrest
    rw [List.append_nil]
    exact .on hon (Alarm.arms_of_trace harm)

theorem refreshes_of_trace {force : Bool} (h : (face.refreshWeather force).Trace log after) :
    face.Refreshes force log after := by
  unfold refreshWeather at h
  split at h
  · next hready =>
    obtain ⟨⟨⟩, first, second, hrequest, harm, rfl⟩ := trace_bind_iff.mp h
    exact .ready hready (requests_of_trace hrequest) (rearms_of_trace harm)
  · next hready =>
    rw [Bool.not_eq_true] at hready
    obtain ⟨rfl, rfl⟩ := trace_done_iff.mp h
    exact .waiting hready

theorem Rearms.frame (h : face.Rearms log after) :
    ∃ refresh, after = { face with refresh := refresh } := by
  cases h with
  | off => exact ⟨face.refresh, rfl⟩
  | on _ _ => exact ⟨_, rfl⟩

theorem Refreshes.frame {force : Bool} (h : face.Refreshes force log after) :
    ∃ refresh, after = { face with refresh := refresh } := by
  cases h with
  | waiting => exact ⟨face.refresh, rfl⟩
  | ready _ _ rearms => exact rearms.frame

inductive Vibrates (face : Face) (connected : Bool) : List Exchange → Prop
  | on {answer : Except ServiceError Unit} (on : face.settings.vibrates connected = true) :
      Vibrates face connected [⟨.doublePulse, answer⟩]
  | off (off : face.settings.vibrates connected = false) : Vibrates face connected []

def announced (face : Face) (result : Except ServiceError Unit) (popup : Alarm) : Face :=
  { face with
    popup := popup
    popupShown := match result with
      | .ok () => true
      | .error _ => popup.isPending }

inductive Connects (face : Face) (connected : Bool) : List Exchange → Face → Prop
  | silent {pulse : List Exchange} (silent : face.settings.announces connected = false)
      (vibrates : face.Vibrates connected pulse) :
      Connects face connected (⟨.markDirty, ()⟩ :: pulse) face
  | announced {pulse arming : List Exchange} {light result : Except ServiceError Unit}
      {popup : Alarm} (announces : face.settings.announces connected = true)
      (vibrates : face.Vibrates connected pulse)
      (arms : face.popup.Arms popupDelay arming result popup) :
      Connects face connected
        (⟨.markDirty, ()⟩ :: pulse ++ ⟨.enableInteraction, light⟩ :: arming)
        (face.announced result popup)

theorem Connects.frame {connected : Bool} (h : face.Connects connected log after) :
    ∃ popup shown, after = { face with popup := popup, popupShown := shown } := by
  cases h with
  | silent => exact ⟨face.popup, face.popupShown, rfl⟩
  | announced => exact ⟨_, _, rfl⟩

theorem vibrates_of_trace {connected : Bool}
    (h : (Dialogue.attemptIf (face.settings.vibrates connected) .doublePulse).Trace log ()) :
    face.Vibrates connected log := by
  unfold Dialogue.attemptIf at h
  split at h
  · next hon =>
    obtain ⟨answer, rfl⟩ := Dialogue.trace_attempt_iff.mp h
    exact .on hon
  · next hoff =>
    rw [Bool.not_eq_true] at hoff
    rw [(trace_done_iff.mp h).1]
    exact .off hoff

theorem connects_of_trace {connected : Bool}
    (h : (face.connectionChanged connected).Trace log after) :
    face.Connects connected log after := by
  unfold connectionChanged at h
  obtain ⟨⟨⟩, rest, rfl, hrest⟩ := trace_attempt_bind_iff.mp h
  obtain ⟨⟨⟩, pulse, shown, hpulse, hshown, rfl⟩ := trace_bind_iff.mp hrest
  have hvibrates := vibrates_of_trace hpulse
  split at hshown
  · next hannounces =>
    unfold showPopup at hshown
    obtain ⟨light, arming, rfl, harming⟩ := trace_attempt_bind_iff.mp hshown
    obtain ⟨⟨result, popup⟩, first, second, harm, hdone, rfl⟩ := trace_bind_iff.mp harming
    obtain ⟨rfl, rfl⟩ := trace_done_iff.mp hdone
    rw [List.append_nil]
    exact .announced hannounces hvibrates (Alarm.arms_of_trace harm)
  · next hannounces =>
    rw [Bool.not_eq_true] at hannounces
    obtain ⟨rfl, rfl⟩ := trace_done_iff.mp hshown
    rw [List.append_nil]
    exact .silent hannounces hvibrates

inductive Resubscribes (face : Face) : List Exchange → Face → Prop
  | renewed :
      Resubscribes face
        [⟨.unsubscribeTick, ()⟩, ⟨.subscribeTick face.settings.tickUnit, .ok ()⟩]
        { face with tickUnit := face.settings.tickUnit }
  | failed {cause : ServiceError} :
      Resubscribes face
        [⟨.unsubscribeTick, ()⟩, ⟨.subscribeTick face.settings.tickUnit, .error cause⟩] face

def settled (face : Face) (message : Dictionary) : Face :=
  { face with store := { face.store with settings := (face.settings.merge message).2 } }

inductive Retunes (face : Face) (message : Dictionary) : List Exchange → Face → Prop
  | same (same : (face.settings.merge message).1.tickUnitChanged = false) :
      Retunes face message [] (face.settled message)
  | changed {log : List Exchange} {after : Face}
      (changed : (face.settings.merge message).1.tickUnitChanged = true)
      (resubscribes : (face.settled message).Resubscribes log after) :
      Retunes face message log after

/-- Does a message lead to a request for weather, if that is due? -/
def rouses (face : Face) (message : Dictionary) : Bool :=
  (message.find? Message.scriptReady.key).isSome ||
    (face.settings.merge message).1.weatherRefreshChanged

inductive Receives (face : Face) (message : Dictionary) : List Exchange → Face → Prop
  | quiet {tuning : List Exchange} {tuned : Face} {now : UInt32}
      (quiet : face.rouses message = false) (retunes : face.Retunes message tuning tuned) :
      Receives face message (⟨.markDirty, ()⟩ :: tuning ++ [⟨.readClock, now⟩])
        (tuned.takeWeather message now)
  | roused {tuning weather : List Exchange} {tuned after : Face} {now : UInt32}
      (roused : face.rouses message = true) (retunes : face.Retunes message tuning tuned)
      (refreshes : (tuned.takeWeather message now).Refreshes false weather after) :
      Receives face message (⟨.markDirty, ()⟩ :: tuning ++ ⟨.readClock, now⟩ :: weather) after

theorem Retunes.frame {message : Dictionary} (h : face.Retunes message log after) :
    ∃ unit, after = { face.settled message with tickUnit := unit } := by
  cases h with
  | same => exact ⟨face.tickUnit, rfl⟩
  | changed _ resubscribes =>
      cases resubscribes with
      | renewed => exact ⟨_, rfl⟩
      | failed => exact ⟨face.tickUnit, rfl⟩

theorem Receives.frame {message : Dictionary} (h : face.Receives message log after) :
    ∃ (now : UInt32) (unit : TickUnit) (refresh : Alarm),
      (⟨.readClock, now⟩ : Exchange) ∈ log ∧
      after = { (face.settled message).takeWeather message now with
        tickUnit := unit, refresh := refresh } := by
  cases h with
  | quiet _ retunes =>
      obtain ⟨unit, rfl⟩ := retunes.frame
      exact ⟨_, unit, face.refresh, by simp, rfl⟩
  | roused _ retunes refreshes =>
      obtain ⟨unit, rfl⟩ := retunes.frame
      obtain ⟨refresh, rfl⟩ := refreshes.frame
      exact ⟨_, unit, refresh, by simp, rfl⟩

theorem resubscribes_of_trace (h : face.resubscribe.Trace log after) :
    face.Resubscribes log after := by
  unfold resubscribe at h
  obtain ⟨⟨⟩, rest, rfl, hrest⟩ := trace_attempt_bind_iff.mp h
  rcases trace_call_bind_iff.mp hrest with ⟨⟨cause⟩ | ⟨⟨⟩⟩, tail, rfl, htail⟩
  · obtain ⟨rfl, rfl⟩ := trace_done_iff.mp htail
    exact .failed
  · obtain ⟨rfl, rfl⟩ := trace_done_iff.mp htail
    exact .renewed

theorem receives_of_tuned {message : Dictionary} {tuning : List Exchange} {tuned : Face}
    (retunes : face.Retunes message tuning tuned)
    (h : (do
      let now ← Dialogue.call .readClock
      if face.rouses message then (tuned.takeWeather message now).refreshWeather false
      else pure (tuned.takeWeather message now) : Dialogue Face).Trace log after) :
    face.Receives message (⟨.markDirty, ()⟩ :: tuning ++ log) after := by
  obtain ⟨now, weather, rfl, hweather⟩ := trace_call_bind_iff.mp h
  split at hweather
  · next hroused => exact .roused hroused retunes (refreshes_of_trace hweather)
  · next hquiet =>
    rw [Bool.not_eq_true] at hquiet
    obtain ⟨rfl, rfl⟩ := trace_done_iff.mp hweather
    exact .quiet hquiet retunes

theorem receives_of_trace {message : Dictionary} (h : (face.received message).Trace log after) :
    face.Receives message log after := by
  unfold received takeSettings Store.merge at h
  simp only [bind_assoc, pure_bind] at h
  obtain ⟨⟨⟩, rest, rfl, hrest⟩ := trace_attempt_bind_iff.mp h
  split at hrest
  · next hchanged =>
    obtain ⟨tuned, tuning, behind, htuning, hbehind, rfl⟩ := trace_bind_iff.mp hrest
    have hretunes := Retunes.changed hchanged (resubscribes_of_trace htuning)
    exact receives_of_tuned hretunes hbehind
  · next hsame =>
    rw [Bool.not_eq_true] at hsame
    exact receives_of_tuned (.same hsame) hrest

/-! ## All inputs -/

def alarm (face : Face) : Purpose → Alarm
  | .bluetoothPopup => face.popup
  | .weatherRefresh => face.refresh

inductive Reacts (face : Face) : Input → List Exchange → Face → Prop
  | tick : Reacts face (.event .tick) [⟨.markDirty, ()⟩] face
  | connection {connected : Bool} {log : List Exchange} {after : Face}
      (connects : face.Connects connected log after) :
      Reacts face (.event (.connection connected)) log after
  | unreadable {payload : Bytes} {error : Dictionary.Error}
      (unreadable : Dictionary.parse payload = .error error) :
      Reacts face (.event (.inbox payload)) [] face
  | message {payload : Bytes} {message : Dictionary} {log : List Exchange} {after : Face}
      (readable : Dictionary.parse payload = .ok message)
      (receives : face.Receives message log after) :
      Reacts face (.event (.inbox payload)) log after
  | stale {purpose : Purpose} {handle : Handle}
      (stale : (face.alarm purpose).pending ≠ some handle) :
      Reacts face (.event (.timer purpose handle)) [] face
  | dismissed {handle : Handle} (pending : face.popup.pending = some handle) :
      Reacts face (.event (.timer .bluetoothPopup handle)) [⟨.markDirty, ()⟩]
        { face with popup := { face.popup with pending := none }, popupShown := false }
  | abandoned {handle : Handle} (pending : face.refresh.pending = some handle)
      (off : face.settings.weatherRefresh = 0) :
      Reacts face (.event (.timer .weatherRefresh handle)) []
        { face with refresh := { face.refresh with pending := none } }
  | elapsed {handle : Handle} {log : List Exchange} {after : Face}
      (pending : face.refresh.pending = some handle)
      (on : face.settings.weatherRefresh ≠ 0)
      (refreshes : { face with refresh := { face.refresh with pending := none } }.Refreshes
        true log after) :
      Reacts face (.event (.timer .weatherRefresh handle)) log after
  | refresh {force : Bool} {log : List Exchange} {after : Face}
      (refreshes : face.Refreshes force log after) : Reacts face (.refresh force) log after

theorem reacts_of_timer {purpose : Purpose} {handle : Handle}
    (h : (face.timerFired purpose handle).Trace log after) :
    face.Reacts (.event (.timer purpose handle)) log after := by
  unfold timerFired Alarm.fire? at h
  cases purpose with
  | bluetoothPopup =>
      by_cases hpending : face.popup.pending = some handle
      · simp only [if_pos hpending] at h
        obtain ⟨⟨⟩, rest, rfl, hrest⟩ := trace_attempt_bind_iff.mp h
        obtain ⟨rfl, rfl⟩ := trace_done_iff.mp hrest
        exact .dismissed hpending
      · simp only [if_neg hpending] at h
        obtain ⟨rfl, rfl⟩ := trace_done_iff.mp h
        exact .stale hpending
  | weatherRefresh =>
      by_cases hpending : face.refresh.pending = some handle
      · simp only [if_pos hpending, refreshed] at h
        split at h
        · next hoff =>
          obtain ⟨rfl, rfl⟩ := trace_done_iff.mp h
          exact .abandoned hpending hoff
        · next hon => exact .elapsed hpending hon (refreshes_of_trace h)
      · simp only [if_neg hpending] at h
        obtain ⟨rfl, rfl⟩ := trace_done_iff.mp h
        exact .stale hpending

theorem reacts_of_trace {input : Input} (h : (face.react input).Trace log after) :
    face.Reacts input log after := by
  rcases input with (_ | connected | payload | ⟨purpose, handle⟩) | force
  · obtain ⟨⟨⟩, rest, rfl, hrest⟩ := trace_attempt_bind_iff.mp h
    obtain ⟨rfl, rfl⟩ := trace_done_iff.mp hrest
    exact .tick
  · exact .connection (connects_of_trace h)
  · simp only [react, dispatch, inbox] at h
    split at h
    · next error hunreadable =>
      obtain ⟨rfl, rfl⟩ := trace_done_iff.mp h
      exact .unreadable hunreadable
    · next message hreadable => exact .message hreadable (receives_of_trace h)
  · exact reacts_of_timer h
  · exact .refresh (refreshes_of_trace h)

end Watchface.Face
