import Watchface.Proofs.Face.Expiry
import Watchface.Proofs.Face.Refreshing
import Watchface.Proofs.Face.Request

/-!
# While refresh is off

A pending timer cannot be taken back, so the refresh timer may still go off
once refresh has been turned off.  `Rests` says what a turn does that ends with
refresh off: it leaves the refresh alarm alone or lets it go, it arms nothing
but the popup, and it requests weather only if forced or as long as there is
no report.
-/

namespace Watchface

namespace Alarm

variable {alarm armed : Alarm} {delay : UInt32} {log : List Exchange}
  {result : Except ServiceError Unit}

def Owns (alarm : Alarm) (delay : UInt32) (call : Call) : Prop :=
  call = .schedule delay alarm.purpose ∨
    ∃ handle, alarm.pending = some handle ∧ call = .reschedule handle delay

theorem Arms.owns (h : alarm.Arms delay log result armed) :
    ∀ exchange ∈ log, alarm.Owns delay exchange.call := by
  cases h with
  | scheduled | unscheduled => simp [Owns]
  | moved pending | kept pending _ | replaced pending | lost pending => simp [Owns, pending]

end Alarm

namespace Weather

theorem isDue_off {weather : Weather} {now : UInt32} (h : weather.isDue now 0 = true) :
    weather.report = none := by
  unfold isDue at h
  split at h
  · next hnone => exact hnone
  · simp at h

end Weather

namespace Face

variable {platform : Platform} {face after : Face} {log opening : List Exchange}
  {input : Input} {turn : Turn} {turns earlier stretch later : List Turn}

def ArmsPopup (face : Face) (input : Input) (call : Call) : Prop :=
  (∃ connected, input = .event (.connection connected)) ∧ face.popup.Owns popupDelay call

def UpdatesUnforced (face : Face) (input : Input) : Prop :=
  input = .refresh false ∨ ∃ payload message, input = .event (.inbox payload) ∧
    Dictionary.parse payload = .ok message ∧ face.rouses message = true

/-- A turn that ends with refresh off. -/
structure Rests (face : Face) (input : Input) (log : List Exchange) (after : Face) : Prop where
  refresh : after.refresh = face.alarmsAt input .weatherRefresh
  timers : ∀ exchange ∈ log, exchange.call.isTimer = true → face.ArmsPopup input exchange.call
  sends : sent log ≠ [] →
    input = .refresh true ∨ face.UpdatesUnforced input ∧ after.weather.report = none
  silent : (face.accepted? input).map Expiry.purpose = some .weatherRefresh → log = []

theorem Refreshes.off {force : Bool} (h : face.Refreshes force log after)
    (off : after.settings.weatherRefresh = 0) :
    after = face ∧ Quiet log ∧ (sent log ≠ [] → force = true ∨ face.weather.report = none) := by
  obtain ⟨refresh, hframe⟩ := h.frame
  have hoff : face.settings.weatherRefresh = 0 := by
    rw [hframe] at off
    exact off
  cases h with
  | waiting => exact ⟨rfl, quiet_nil, fun hsent => absurd rfl hsent⟩
  | @ready request arming _ ready requests rearms =>
      cases rearms with
      | on on => exact absurd (refreshDelay?_eq_none_iff.mpr hoff) (by simp [on])
      | off =>
          rw [List.append_nil]
          refine ⟨rfl, quiet_requests requests, fun hsent => ?_⟩
          cases requests with
          | forced => exact .inl rfl
          | due _ isDue =>
              rw [hoff] at isDue
              exact .inr (Weather.isDue_off isDue)
          | fresh => exact absurd rfl hsent

theorem Rests.of_quiet (accepts : (face.accepted? input).map Expiry.purpose ≠ some .weatherRefresh)
    (refresh : after.refresh = face.refresh) (quiet : Quiet log)
    (sends : sent log ≠ [] →
      input = .refresh true ∨ face.UpdatesUnforced input ∧ after.weather.report = none) :
    face.Rests input log after where
  refresh := by
    rw [alarmsAt, if_neg accepts, refresh]
    rfl
  timers exchange hmem htimer := by
    rw [quiet exchange hmem] at htimer
    contradiction
  sends := sends
  silent haccepted := absurd haccepted accepts

theorem Receives.rests {payload : Bytes} {message : Dictionary}
    (readable : Dictionary.parse payload = .ok message) (h : face.Receives message log after)
    (off : after.settings.weatherRefresh = 0) :
    face.Rests (.event (.inbox payload)) log after := by
  cases h with
  | quiet _ retunes =>
      have hsent := sent_retunes retunes
      have hquiet := quiet_retunes retunes
      obtain ⟨unit, rfl⟩ := retunes.frame
      refine .of_quiet (by simp [accepted?]) rfl (by simpa using hquiet) fun hsome => ?_
      simp [sentPayload?, hsent] at hsome
  | @roused tuning weather tuned _ now roused retunes refreshes =>
      have hsent := sent_retunes retunes
      have hquiet := quiet_retunes retunes
      obtain ⟨unit, rfl⟩ := retunes.frame
      obtain ⟨rfl, hweather, hsends⟩ := refreshes.off off
      refine .of_quiet (by simp [accepted?]) rfl (by simpa [hquiet] using hweather) fun hsome => ?_
      have hrequest : sent weather ≠ [] := by simpa [sentPayload?, hsent] using hsome
      have hnone := (hsends hrequest).resolve_left Bool.false_ne_true
      exact .inr ⟨.inr ⟨payload, message, rfl, readable, roused⟩, hnone⟩

theorem Connects.rests {connected : Bool} (h : face.Connects connected log after) :
    face.Rests (.event (.connection connected)) log after := by
  constructor
  case refresh =>
    obtain ⟨popup, shown, rfl⟩ := h.frame
    rfl
  case timers =>
    intro exchange hmem htimer
    refine ⟨⟨connected, rfl⟩, ?_⟩
    cases h with
    | @silent pulse _ vibrates =>
        have hquiet : Quiet (⟨.markDirty, ()⟩ :: pulse) := by
          simpa using quiet_vibrates vibrates
        rw [hquiet exchange hmem] at htimer
        contradiction
    | @announced pulse arming light _ _ _ vibrates arms =>
        have hquiet : Quiet (⟨.markDirty, ()⟩ :: pulse ++ [⟨.enableInteraction, light⟩]) := by
          simpa using quiet_vibrates vibrates
        rw [List.append_cons] at hmem
        rcases List.mem_append.mp hmem with hbefore | harming
        · rw [hquiet exchange hbefore] at htimer
          contradiction
        · exact arms.owns exchange harming
  case sends => exact fun hsent => absurd (sent_connects h) hsent
  case silent => exact fun haccepted => absurd haccepted (by simp [accepted?])

theorem Reacts.rests (h : face.Reacts input log after)
    (off : after.settings.weatherRefresh = 0) : face.Rests input log after := by
  cases h with
  | tick =>
      exact .of_quiet (by simp [accepted?]) rfl (by simp) fun hsent => absurd rfl hsent
  | connection connects => exact connects.rests
  | unreadable =>
      exact .of_quiet (by simp [accepted?]) rfl quiet_nil fun hsent => absurd rfl hsent
  | message readable receives => exact receives.rests readable off
  | stale stale =>
      have haccepted := (face.accepted?_timer _ _).trans (if_neg stale)
      exact .of_quiet (by simp [haccepted]) rfl quiet_nil fun hsent => absurd rfl hsent
  | dismissed pending =>
      have haccepted := (face.accepted?_timer .bluetoothPopup _).trans (if_pos pending)
      exact .of_quiet (by simp [haccepted]) rfl (by simp) fun hsent => absurd rfl hsent
  | abandoned pending =>
      have haccepted := (face.accepted?_timer .weatherRefresh _).trans (if_pos pending)
      constructor
      case refresh =>
        rw [alarmsAt_of_some haccepted, Function.update_self]
        rfl
      case timers => exact fun exchange hmem => absurd hmem List.not_mem_nil
      case sends => exact fun hsent => absurd rfl hsent
      case silent => exact fun _ => rfl
  | elapsed _ on refreshes =>
      obtain ⟨refresh, rfl⟩ := refreshes.frame
      exact absurd off on
  | @refresh force _ _ refreshes =>
      obtain ⟨rfl, hquiet, hsends⟩ := refreshes.off off
      refine .of_quiet (by simp [accepted?]) rfl hquiet fun hsent => ?_
      cases force with
      | true => exact .inl rfl
      | false => exact .inr ⟨.inl rfl, (hsends hsent).resolve_left Bool.false_ne_true⟩

/-! ## A stretch of a run -/

theorem Run.rests {before behind : List Turn}
    (run : Run platform opening (before ++ turn :: behind) face)
    (off : turn.after.settings.weatherRefresh = 0) :
    turn.before.Rests turn.input turn.log turn.after :=
  (reacts_of_trace run.cut.2).rests off

theorem Rests.idle (h : face.Rests input log after)
    (idle : face.refresh.pending = none ∨
      (face.accepted? input).map Expiry.purpose = some .weatherRefresh) :
    after.refresh.pending = none := by
  rw [h.refresh, alarmsAt]
  split
  · rfl
  · next hnone => exact idle.resolve_right hnone

theorem accepted?_ne_of_idle (idle : face.refresh.pending = none) :
    (face.accepted? input).map Expiry.purpose ≠ some .weatherRefresh := by
  intro haccepted
  obtain ⟨⟨purpose, handle⟩, hexpiry, hpurpose⟩ := Option.map_eq_some_iff.mp haccepted
  subst hpurpose
  have hpending : face.refresh.pending = some handle := (accepted?_eq_some_iff.mp hexpiry).2
  rw [idle] at hpending
  contradiction

theorem Run.stays_idle {before behind : List Turn}
    (run : Run platform opening (before ++ turn :: (stretch ++ behind)) face)
    (off : ∀ next ∈ stretch, next.after.settings.weatherRefresh = 0)
    (idle : turn.after.refresh.pending = none) :
    ∀ next ∈ stretch, next.before.refresh.pending = none ∧ next.after.refresh.pending = none := by
  -- the turn in front moves along: it is the one that the next turn starts from
  induction stretch generalizing before turn with
  | nil => simp
  | cons next stretch ih =>
      rw [List.cons_append] at run
      have hbefore : next.before.refresh.pending = none := by rwa [run.before_eq]
      rw [List.append_cons] at run
      have hafter := (run.rests (off next List.mem_cons_self)).idle (.inl hbefore)
      rw [List.forall_mem_cons]
      exact ⟨⟨hbefore, hafter⟩, ih run (fun other hmem => off other (.tail next hmem)) hafter⟩

def Turn.AcceptsRefresh (turn : Turn) : Prop :=
  turn.accepted?.map Expiry.purpose = some .weatherRefresh

instance (turn : Turn) : Decidable turn.AcceptsRefresh :=
  inferInstanceAs (Decidable (_ = _))

theorem Run.accepts_once {behind : List Turn}
    (run : Run platform opening (earlier ++ (stretch ++ behind)) face)
    (off : ∀ turn ∈ stretch, turn.after.settings.weatherRefresh = 0) :
    (stretch.countP fun turn => turn.AcceptsRefresh) ≤ 1 := by
  induction stretch generalizing earlier with
  | nil => exact Nat.zero_le 1
  | cons turn stretch ih =>
      have hoff : ∀ next ∈ stretch, next.after.settings.weatherRefresh = 0 := fun next hmem =>
        off next (.tail turn hmem)
      rw [List.cons_append] at run
      by_cases haccepts : turn.AcceptsRefresh
      · have hidle := (run.rests (off turn List.mem_cons_self)).idle (.inr haccepts)
        have hrest : (stretch.countP fun turn => turn.AcceptsRefresh) = 0 := by
          rw [List.countP_eq_zero]
          intro next hmem
          rw [decide_eq_true_eq]
          exact accepted?_ne_of_idle (run.stays_idle hoff hidle next hmem).1
        have hcount : ((turn :: stretch).countP fun turn => turn.AcceptsRefresh) = 1 := by
          rw [List.countP_cons, hrest, if_pos (decide_eq_true haccepts), Nat.zero_add]
        exact Nat.le_of_eq hcount
      · rw [List.append_cons] at run
        rw [List.countP_cons, if_neg (by simpa using haccepts)]
        exact ih run hoff

/--
A stretch of a run, each turn of which ends with refresh off.  There is no call
to schedule a refresh timer, and a timer is moved only if it is that of the
popup and the connection changes.  At most one expiry of the refresh
timer is accepted; it makes no call, and the refresh alarm is idle from there
to the end of the stretch.  A request is sent only by an update that is forced
from outside, or by one that is not forced while there is no report.
-/
theorem refresh_stays_off (run : Run platform opening (earlier ++ (stretch ++ later)) face)
    (off : ∀ turn ∈ stretch, turn.after.settings.weatherRefresh = 0) :
    (∀ turn ∈ stretch,
      (∀ delay answer, (⟨.schedule delay .weatherRefresh, answer⟩ : Exchange) ∉ turn.log) ∧
      ∀ handle delay answer, (⟨.reschedule handle delay, answer⟩ : Exchange) ∈ turn.log →
        (∃ connected, turn.input = .event (.connection connected)) ∧
          turn.before.popup.pending = some handle) ∧
    (stretch.countP fun turn => turn.AcceptsRefresh) ≤ 1 ∧
    (∀ (before behind : List Turn) (turn : Turn), stretch = before ++ turn :: behind →
      turn.AcceptsRefresh → turn.log = [] ∧
        ∀ next ∈ turn :: behind, next.after.refresh.pending = none) ∧
    ∀ turn ∈ stretch, sent turn.log ≠ [] →
      turn.input = .refresh true ∨
        turn.before.UpdatesUnforced turn.input ∧ turn.after.weather.report = none := by
  have hcut : ∀ before behind turn, stretch = before ++ turn :: behind →
      Run platform opening ((earlier ++ before) ++ turn :: (behind ++ later)) face := by
    intro before behind turn hstretch
    rw [hstretch] at run
    simpa using run
  have hrests : ∀ turn ∈ stretch, turn.before.Rests turn.input turn.log turn.after ∧
      turn.before.popup.purpose = .bluetoothPopup := by
    intro turn hmem
    obtain ⟨before, behind, hstretch⟩ := List.append_of_mem hmem
    have hrun := hcut before behind turn hstretch
    exact ⟨hrun.rests (off turn hmem), hrun.cut.1.purpose_eq .bluetoothPopup⟩
  refine ⟨?_, run.accepts_once off, ?_, ?_⟩
  · intro turn hmem
    obtain ⟨hturn, hpurpose⟩ := hrests turn hmem
    constructor
    · intro delay answer hcall
      obtain ⟨-, howns⟩ := hturn.timers _ hcall rfl
      simp [Alarm.Owns, hpurpose] at howns
    · intro handle delay answer hcall
      obtain ⟨hconnection, howns⟩ := hturn.timers _ hcall rfl
      rcases howns with hschedule | ⟨found, hpending, hreschedule⟩
      · contradiction
      · rw [Call.reschedule.injEq] at hreschedule
        exact ⟨hconnection, hreschedule.1 ▸ hpending⟩
  · intro before behind turn hstretch haccepts
    have hmem : turn ∈ stretch := by simp [hstretch]
    have hturn := (hrests turn hmem).1
    have hidle := hturn.idle (.inr haccepts)
    have hbehind := (hcut before behind turn hstretch).stays_idle
      (fun next hnext => off next (by simp [hstretch, hnext])) hidle
    refine ⟨hturn.silent haccepts, ?_⟩
    rw [List.forall_mem_cons]
    exact ⟨hidle, fun next hnext => (hbehind next hnext).2⟩
  · intro turn hmem hsent
    exact (hrests turn hmem).1.sends hsent

theorem pending_refresh_is_let_go :
    let watch := Simulator.initial 1000 fun _ => none
    let face := ofPlatform .colorRect
    let ready : Input := .event (.inbox [1, 109, 0, 0, 0, 2, 1, 0, 1])
    let off : Input := .event (.inbox [1, 29, 0, 0, 0, 2, 1, 0, 0])
    let fires : Input := .event (.timer .weatherRefresh 1)
    let one := (face.react ready).run Simulator.host watch
    let two := (one.value.react off).run Simulator.host one.state
    let three := (two.value.react fires).run Simulator.host two.state
    let earlier : List Turn := [⟨face, ready, one.log, one.value⟩]
    let turnsOff : Turn := ⟨one.value, off, two.log, two.value⟩
    let letsGo : Turn := ⟨two.value, fires, three.log, three.value⟩
    Run .colorRect [] (earlier ++ ([turnsOff, letsGo] ++ [])) three.value ∧
      (∀ turn ∈ [turnsOff, letsGo], turn.after.settings.weatherRefresh = 0) ∧
      letsGo.before.refresh.pending = some 1 ∧
      letsGo.log = [] ∧ letsGo.after.refresh.pending = none := by
  intro watch face ready off fires one two three earlier turnsOff letsGo
  have hready : (face.react ready).Trace one.log one.value := Dialogue.trace_run _ _ _
  have hoff : (one.value.react off).Trace two.log two.value := Dialogue.trace_run _ _ _
  have hfires : (two.value.react fires).Trace three.log three.value := Dialogue.trace_run _ _ _
  have hrun : Run .colorRect [] (earlier ++ ([turnsOff, letsGo] ++ [])) three.value :=
    .turn (.turn (.turn .fresh hready) hoff) hfires
  have hzero : ∀ turn ∈ [turnsOff, letsGo], turn.after.settings.weatherRefresh = 0 := by
    decide +kernel
  have haccepts : letsGo.AcceptsRefresh := by decide +kernel
  obtain ⟨-, -, haccepted, -⟩ := refresh_stays_off hrun hzero
  obtain ⟨hlog, hidle⟩ := haccepted [turnsOff] [] letsGo rfl haccepts
  exact ⟨hrun, hzero, by decide +kernel, hlog, hidle letsGo List.mem_cons_self⟩

end Face

end Watchface
