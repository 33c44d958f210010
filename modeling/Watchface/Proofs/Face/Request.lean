import Watchface.Proofs.Face.Run
import Watchface.Simulator

/-!
# Requests for weather

The face sends nothing but requests for weather, and one at most in a turn.
`Due` says when: if the script on the phone is ready and the update is forced,
or else if the report is due at the interval now in force.  An update is asked
for from outside, by the refresh timer, or by a message that reports the
script ready or changes the interval.
-/

namespace Watchface.Face

variable {platform : Platform} {face after : Face} {log opening : List Exchange}
  {turns : List Turn} {now : UInt32}

def sentPayload? (exchange : Exchange) : Option Bytes :=
  match exchange.call with
  | .send payload => some payload
  | _ => none

def sent (log : List Exchange) : List Bytes := log.filterMap sentPayload?

@[simp] theorem sent_nil : sent [] = [] := rfl

@[simp] theorem sent_cons (exchange : Exchange) (log : List Exchange) :
    sent (exchange :: log) = (sentPayload? exchange).toList ++ sent log := by
  cases h : sentPayload? exchange with
  | none => simp [sent, h]
  | some payload => simp [sent, h]

@[simp] theorem sent_append (first second : List Exchange) :
    sent (first ++ second) = sent first ++ sent second := by
  simp [sent]

def fetchPayload : Bytes := [1, 107, 0, 0, 0, 2, 1, 0, 1]

/-- The log sends one request if the condition holds, and nothing else. -/
def SendsIf (log : List Exchange) (condition : Prop) : Prop :=
  (condition ∧ sent log = [fetchPayload]) ∨ (¬ condition ∧ sent log = [])

theorem SendsIf.congr {first second : Prop} (h : SendsIf log first) (hiff : first ↔ second) :
    SendsIf log second := by
  rwa [propext hiff] at h

theorem SendsIf.of_sent_nil {condition : Prop} (hsent : sent log = []) (h : ¬ condition) :
    SendsIf log condition :=
  .inr ⟨h, hsent⟩

theorem SendsIf.sent_ne_nil_iff {condition : Prop} (h : SendsIf log condition) :
    sent log ≠ [] ↔ condition := by
  rcases h with ⟨hcondition, hsent⟩ | ⟨hcondition, hsent⟩ <;> simp [hsent, hcondition]

theorem SendsIf.after_silence {condition : Prop} {before : List Exchange}
    (h : SendsIf log condition) (hbefore : sent before = []) :
    SendsIf (before ++ log) condition := by
  rwa [SendsIf, sent_append, hbefore]

theorem SendsIf.before_silence {condition : Prop} {behind : List Exchange}
    (h : SendsIf log condition) (hbehind : sent behind = []) :
    SendsIf (log ++ behind) condition := by
  rwa [SendsIf, sent_append, hbehind, List.append_nil]

theorem sent_arms {alarm armed : Alarm} {delay : UInt32} {result : Except ServiceError Unit}
    (h : alarm.Arms delay log result armed) : sent log = [] := by
  cases h <;> rfl

theorem sent_rearms (h : face.Rearms log after) : sent log = [] := by
  cases h with
  | off => rfl
  | on _ arms => exact sent_arms arms

theorem sent_connects {connected : Bool} (h : face.Connects connected log after) :
    sent log = [] := by
  cases h with
  | silent _ vibrates => cases vibrates <;> rfl
  | announced _ vibrates arms =>
      have harming := sent_arms arms
      cases vibrates <;> simp [sentPayload?, harming]

theorem sent_retunes {message : Dictionary} (h : face.Retunes message log after) :
    sent log = [] := by
  cases h with
  | same => rfl
  | changed _ resubscribes => cases resubscribes <;> rfl

theorem sent_start (h : (Face.start platform).Trace log face) : sent log = [] := by
  obtain ⟨tick, connection, channel, rfl⟩ := (trace_start h).2
  rfl

theorem Run.sent_opening (run : Run platform opening turns face) : sent opening = [] := by
  induction run with
  | fresh => rfl
  | started start => exact sent_start start
  | turn _ _ ih => exact ih

def Wants (face : Face) (force : Bool) (now : UInt32) : Prop :=
  face.scriptReady = true ∧
    (force = true ∨ face.weather.isDue now face.settings.weatherRefresh = true)

theorem requests_sendsIf {force : Bool} (h : face.Requests force log)
    (clock : ClockShows now log) :
    SendsIf log (force = true ∨ face.weather.isDue now face.settings.weatherRefresh = true) := by
  cases h with
  | forced request =>
      rw [fetchRequest_eq, Except.ok.injEq] at request
      subst request
      exact .inl ⟨.inl rfl, rfl⟩
  | @due _ _ time request isDue =>
      rw [fetchRequest_eq, Except.ok.injEq] at request
      subst request
      have htime := clock time (by simp)
      subst htime
      exact .inl ⟨.inr isDue, rfl⟩
  | @fresh time isFresh =>
      have htime := clock time (by simp)
      subst htime
      apply SendsIf.of_sent_nil rfl
      simp [isFresh]

theorem refreshes_sendsIf {force : Bool} (h : face.Refreshes force log after)
    (clock : ClockShows now log) : SendsIf log (face.Wants force now) := by
  cases h with
  | waiting waiting =>
      apply SendsIf.of_sent_nil rfl
      simp [Wants, waiting]
  | ready ready requests rearms =>
      have hsends := requests_sendsIf requests (clockShows_append.mp clock).1
      have hrearmed := hsends.before_silence (sent_rearms rearms)
      apply hrearmed.congr
      simp [Wants, ready]

/-! ## When a request is due -/

/--
Is a request due in a turn that takes the face to `after`?  The clock shows
`now`, and a message counts with what it changes itself.
-/
def Due (face : Face) (input : Input) (after : Face) (now : UInt32) : Prop :=
  match input with
  | .refresh true => after.scriptReady = true
  | .refresh false =>
      after.scriptReady = true ∧
        after.weather.isDue now after.settings.weatherRefresh = true
  | .event (.timer .weatherRefresh handle) =>
      face.refresh.pending = some handle ∧ after.settings.weatherRefresh ≠ 0 ∧
        after.scriptReady = true
  | .event (.inbox payload) =>
      (ReportsReady payload ∨ after.settings.weatherRefresh ≠ face.settings.weatherRefresh) ∧
        after.scriptReady = true ∧
        ∃ message, Dictionary.parse payload = .ok message ∧
          (face.weather.merge message now).2.isDue now after.settings.weatherRefresh = true
  | _ => False

theorem Due.scriptReady {input : Input} (h : Due face input after now) :
    after.scriptReady = true := by
  rcases input with (_ | connected | payload | ⟨_ | _, handle⟩) | _ | _
  · exact h.elim
  · exact h.elim
  · exact h.2.1
  · exact h.elim
  · exact h.2.2
  · exact h.1
  · exact h

theorem rouses_iff {payload : Bytes} {message : Dictionary}
    (h : Dictionary.parse payload = .ok message) :
    face.rouses message = true ↔ ReportsReady payload ∨
      (face.settled message).settings.weatherRefresh ≠ face.settings.weatherRefresh := by
  simp [rouses, reportsReady_iff h, Settings.merge, Settings.update, settled, settings]

theorem receives_sendsIf {payload : Bytes} {message : Dictionary}
    (readable : Dictionary.parse payload = .ok message)
    (h : face.Receives message log after) (clock : ClockShows now log) :
    SendsIf log (Due face (.event (.inbox payload)) after now) := by
  cases h with
  | quiet quiet retunes =>
      obtain ⟨unit, rfl⟩ := retunes.frame
      have hsent := sent_retunes retunes
      apply SendsIf.of_sent_nil
      · simp [sentPayload?, hsent]
      · intro hdue
        have hroused := (rouses_iff readable).mpr hdue.1
        rw [quiet] at hroused
        contradiction
  | @roused tuning weather tuned _ time roused retunes refreshes =>
      have htime := clock time (by simp)
      subst htime
      have hsent := sent_retunes retunes
      obtain ⟨unit, rfl⟩ := retunes.frame
      obtain ⟨refresh, rfl⟩ := refreshes.frame
      have hweather : ClockShows time weather := fun answer hanswer =>
        clock answer (by simp [hanswer])
      have hsends := refreshes_sendsIf refreshes hweather
      have hbefore : sent (⟨.markDirty, ()⟩ :: tuning ++ [⟨.readClock, time⟩]) = [] := by
        simp [sentPayload?, hsent]
      have hreceived := hsends.after_silence hbefore
      rw [List.append_assoc, List.singleton_append] at hreceived
      apply hreceived.congr
      have hroused := (rouses_iff readable).mp roused
      simp only [Wants, Due, readable, Except.ok.injEq, exists_eq_left', Bool.false_eq_true,
        false_or]
      exact (and_iff_right hroused).symm

theorem Reacts.sendsIf {input : Input} (h : face.Reacts input log after)
    (clock : ClockShows now log) : SendsIf log (Due face input after now) := by
  cases h with
  | tick => exact .of_sent_nil rfl id
  | connection connects => exact .of_sent_nil (sent_connects connects) id
  | unreadable unreadable =>
      apply SendsIf.of_sent_nil rfl
      simp [Due, unreadable]
  | message readable receives => exact receives_sendsIf readable receives clock
  | @stale purpose handle stale =>
      apply SendsIf.of_sent_nil rfl
      cases purpose with
      | bluetoothPopup => exact id
      | weatherRefresh => exact fun hdue => stale hdue.1
  | dismissed => exact .of_sent_nil rfl id
  | abandoned _ off => exact .of_sent_nil rfl fun hdue => hdue.2.1 off
  | elapsed pending on refreshes =>
      have hsends := refreshes_sendsIf refreshes clock
      obtain ⟨refresh, rfl⟩ := refreshes.frame
      apply hsends.congr
      constructor
      · exact fun hwants => ⟨pending, on, hwants.1⟩
      · exact fun hdue => ⟨hdue.2.2, .inl rfl⟩
  | @refresh force _ _ refreshes =>
      have hsends := refreshes_sendsIf refreshes clock
      obtain ⟨refresh, rfl⟩ := refreshes.frame
      apply hsends.congr
      cases force with
      | true => simp [Wants, Due]
      | false =>
          simp only [Wants, Due, Bool.false_eq_true, false_or]
          rfl

/--
On every run and in every turn of it: the script counts as ready once a
message has reported it so, at most one request is sent, it is the request to
fetch weather, and it is sent if and only if it is due.
-/
theorem request_sent_iff_due {input : Input} (run : Run platform opening turns face)
    (reacts : (face.react input).Trace log after) (clock : ClockShows now log) :
    sent opening = [] ∧
    (after.scriptReady = true ↔ ∃ payload,
      .event (.inbox payload) ∈ turns.map Turn.input ++ [input] ∧ ReportsReady payload) ∧
    (sent log).length ≤ 1 ∧
    (∀ payload ∈ sent log, Channel.fetchRequest = .ok payload) ∧
    (sent log ≠ [] ↔ Due face input after now) ∧
    (sent log ≠ [] → after.scriptReady = true) := by
  have hsends := (reacts_of_trace reacts).sendsIf clock
  refine ⟨run.sent_opening, ?_, ?_, ?_, ?_, ?_⟩
  · rw [(run.turn reacts).scriptReady_iff]
    simp only [List.map_append, List.map_cons, List.map_nil]
    constructor
    · rintro ⟨_, hinput, payload, rfl, hready⟩
      exact ⟨payload, hinput, hready⟩
    · rintro ⟨payload, hpayload, hready⟩
      exact ⟨_, hpayload, payload, rfl, hready⟩
  · rcases hsends with ⟨-, hsent⟩ | ⟨-, hsent⟩ <;> simp [hsent]
  · intro payload hpayload
    rcases hsends with ⟨-, hsent⟩ | ⟨-, hsent⟩
    · rw [hsent, List.mem_singleton] at hpayload
      rw [fetchRequest_eq, hpayload, fetchPayload]
    · simp [hsent] at hpayload
  · exact hsends.sent_ne_nil_iff
  · intro hsent
    exact (hsends.sent_ne_nil_iff.mp hsent).scriptReady

theorem request_sent_when_ready_is_reported :
    let outcome := ((ofPlatform .colorRect).react
      (.event (.inbox [1, 109, 0, 0, 0, 2, 1, 0, 1]))).run
        Simulator.host (Simulator.initial 1000 fun _ => none)
    ClockShows 1000 outcome.log ∧ sent outcome.log = [fetchPayload] ∧
      Due (ofPlatform .colorRect) (.event (.inbox [1, 109, 0, 0, 0, 2, 1, 0, 1]))
        outcome.value 1000 := by
  intro outcome
  have hlog : outcome.log =
      [⟨.markDirty, ()⟩, ⟨.readClock, (1000 : UInt32)⟩, ⟨.readClock, (1000 : UInt32)⟩,
        ⟨.send fetchPayload, .ok ()⟩, ⟨.schedule 1800000 .weatherRefresh, .ok 1⟩] := rfl
  have clock : ClockShows 1000 outcome.log := by
    rw [hlog]
    intro answer hanswer
    simpa using hanswer
  have hsent : sent outcome.log = [fetchPayload] := by
    rw [hlog]
    rfl
  have hfacts := request_sent_iff_due .fresh (Dialogue.trace_run Simulator.host _ _) clock
  have hsome : sent outcome.log ≠ [] := by simp [hsent]
  exact ⟨clock, hsent, hfacts.2.2.2.2.1.mp hsome⟩

end Watchface.Face
