import Watchface.Proofs.Face.Knowledge
import Watchface.Proofs.Face.Run
import Watchface.Proofs.Host.Coupling

/-!
# Isolation of host failures

Two runs take the same inputs at the same times, on hosts that fail in
different places.  What the face has learned is the same in both.  To most calls
the face pays no heed of the answer: hosts that differ in nothing else see the
same calls, and the faces are equal.  A request for ticks is heeded only by the
tick that the face remembers, on which nothing else depends.
-/

namespace Watchface

/-- Calls to which the answer makes no difference. -/
def Call.isUnheeded : Call → Bool
  | .doublePulse | .enableInteraction | .openChannel _ _ | .send _ | .subscribeConnection => true
  | _ => false

def Call.isTickRequest : Call → Bool
  | .subscribeTick _ => true
  | _ => false

/-- No calls are free but those that are unheeded and requests for ticks. -/
def Harmless (free : Call → Bool) : Prop :=
  ∀ call, free call = true → call.isUnheeded = true ∨ call.isTickRequest = true

theorem Harmless.strict {free : Call → Bool} (h : Harmless free) {call : Call}
    (heeded : call.isUnheeded = false) (other : call.isTickRequest = false) :
    free call = false := by
  by_contra hfree
  rw [Bool.not_eq_false] at hfree
  rcases h call hfree with hunheeded | htick
  · rw [heeded] at hunheeded
    contradiction
  · rw [other] at htick
    contradiction

theorem Harmless.coupled_arm {free : Call → Bool} (h : Harmless free) (alarm : Alarm)
    (delay : UInt32) : Dialogue.Coupled free Eq (alarm.arm delay) (alarm.arm delay) :=
  alarm.coupled_arm delay (fun _ => h.strict rfl rfl) fun _ => h.strict rfl rfl

theorem harmless_isUnheeded : Harmless Call.isUnheeded := fun _ => .inl

theorem harmless_isTickRequest : Harmless Call.isTickRequest := fun _ => .inr

namespace Face

open Dialogue (Coupled coupled_attempt coupled_attempt_bind coupled_call_bind)

variable {platform : Platform} {face after other later : Face} {free : Call → Bool}
  {input : Input} {log behind opening beginning : List Exchange} {turns others : List Turn}

structure SameKnowledge (face other : Face) : Prop where
  settings : face.settings = other.settings
  weather : face.weather = other.weather
  scriptReady : face.scriptReady = other.scriptReady

theorem Reacts.sameKnowledge (one : face.Reacts input log after)
    (two : other.Reacts input behind later) (same : face.SameKnowledge other)
    (clock : SameClock log behind) : after.SameKnowledge later := by
  obtain ⟨hsettings, -⟩ := one.settings_congr two same.settings rfl
  obtain ⟨hweather, hready⟩ := one.weather_congr two same.weather same.scriptReady clock rfl
  exact ⟨hsettings, hweather, hready⟩

theorem Run.sameKnowledge (run : Run platform opening turns face)
    (rival : Run platform beginning others other)
    (parallel : List.Forall₂ Turn.Parallel turns others) :
    face.SameKnowledge other ∧
      List.Forall₂ (fun turn twin => turn.after.SameKnowledge twin.after) turns others := by
  refine run.parallel_induction (motive := fun turns face others other =>
    face.SameKnowledge other ∧
      List.Forall₂ (fun turn twin => turn.after.SameKnowledge twin.after) turns others)
    rival parallel ⟨⟨rfl, rfl, rfl⟩, .nil⟩ ?_
  rintro turns others last final ⟨hsame, hturns⟩ ⟨hinput, hclock⟩ one two
  rw [← hinput] at two
  have hlast := (reacts_of_trace one).sameKnowledge (reacts_of_trace two) hsame hclock
  exact ⟨hlast, forall₂_concat_iff.mpr ⟨hturns, hlast⟩⟩

/-! ## Twins -/

def withTick (face : Face) (unit : TickUnit) : Face := { face with tickUnit := unit }

section
variable (face : Face) (unit : TickUnit)

@[simp] theorem store_withTick : (face.withTick unit).store = face.store := rfl

@[simp] theorem settings_withTick : (face.withTick unit).settings = face.settings := rfl

@[simp] theorem popup_withTick : (face.withTick unit).popup = face.popup := rfl

@[simp] theorem refresh_withTick : (face.withTick unit).refresh = face.refresh := rfl

@[simp] theorem scriptReady_withTick :
    (face.withTick unit).scriptReady = face.scriptReady := rfl

end

/-- At most the tick differs, and that only where requests for it are free. -/
def Twin (free : Call → Bool) (face other : Face) : Prop :=
  ∃ unit, other = face.withTick unit ∧
    ((∀ tick, free (.subscribeTick tick) = false) → unit = face.tickUnit)

theorem Twin.refl (face : Face) : Twin free face face := ⟨face.tickUnit, rfl, fun _ => rfl⟩

theorem Twin.eq (h : Twin free face other) (strict : ∀ tick, free (.subscribeTick tick) = false) :
    face = other := by
  obtain ⟨unit, rfl, hunit⟩ := h
  rw [hunit strict]
  rfl

theorem Twin.eq_withTick (h : Twin free face other) : other = face.withTick other.tickUnit := by
  obtain ⟨unit, rfl, -⟩ := h
  rfl

section
variable (harmless : Harmless free)
include harmless

theorem coupled_requestIfDue (face : Face) (force : Bool) :
    Coupled free Eq (face.requestIfDue force) (face.requestIfDue force) := by
  have hrequest : Coupled free Eq requestWeather requestWeather := by
    rw [requestWeather, fetchRequest_eq]
    exact coupled_attempt _
  unfold requestIfDue
  cases force with
  | true => exact hrequest
  | false =>
      refine coupled_call_bind (harmless.strict rfl rfl) fun now => ?_
      split
      · exact hrequest
      · exact .done rfl

theorem Twin.coupled_armRefresh (twins : Twin free face other) :
    Coupled free (Twin free) face.armRefresh other.armRefresh := by
  obtain ⟨unit, rfl, hunit⟩ := twins
  unfold armRefresh
  rw [settings_withTick, refresh_withTick]
  split
  · exact .done ⟨unit, rfl, hunit⟩
  · next delay _ =>
    refine (harmless.coupled_arm face.refresh delay).bind fun ⟨result, refresh⟩ _ hsame => ?_
    subst hsame
    exact .done ⟨unit, rfl, hunit⟩

theorem Twin.coupled_refreshWeather (twins : Twin free face other) (force : Bool) :
    Coupled free (Twin free) (face.refreshWeather force) (other.refreshWeather force) := by
  obtain ⟨unit, rfl, hunit⟩ := twins
  unfold refreshWeather
  rw [scriptReady_withTick]
  split
  · refine (coupled_requestIfDue harmless face force).bind fun _ _ _ => ?_
    exact Twin.coupled_armRefresh harmless ⟨unit, rfl, hunit⟩
  · exact .done ⟨unit, rfl, hunit⟩

theorem Twin.coupled_showPopup (twins : Twin free face other) :
    Coupled free (Twin free) face.showPopup other.showPopup := by
  obtain ⟨unit, rfl, hunit⟩ := twins
  unfold showPopup
  rw [popup_withTick]
  refine coupled_attempt_bind ?_
  refine (harmless.coupled_arm face.popup popupDelay).bind fun ⟨result, popup⟩ _ hsame => ?_
  subst hsame
  exact .done ⟨unit, rfl, hunit⟩

theorem Twin.coupled_connectionChanged (twins : Twin free face other) (connected : Bool) :
    Coupled free (Twin free) (face.connectionChanged connected)
      (other.connectionChanged connected) := by
  have hpulse : Coupled free Eq
      (Dialogue.attemptIf (face.settings.vibrates connected) .doublePulse)
      (Dialogue.attemptIf (face.settings.vibrates connected) .doublePulse) := by
    unfold Dialogue.attemptIf
    split
    · exact coupled_attempt _
    · exact .done rfl
  obtain ⟨unit, rfl, hunit⟩ := twins
  unfold connectionChanged
  rw [settings_withTick]
  refine coupled_attempt_bind (hpulse.bind fun _ _ _ => ?_)
  split
  · exact Twin.coupled_showPopup harmless ⟨unit, rfl, hunit⟩
  · exact .done ⟨unit, rfl, hunit⟩

theorem Twin.coupled_refreshed (twins : Twin free face other) (refresh : Alarm) :
    Coupled free (Twin free) (face.refreshed refresh) (other.refreshed refresh) := by
  obtain ⟨unit, rfl, hunit⟩ := twins
  have hrefresh : Twin free { face with refresh := refresh }
      { face.withTick unit with refresh := refresh } := ⟨unit, rfl, hunit⟩
  have hsettings : ({ face.withTick unit with refresh := refresh } : Face).settings =
      ({ face with refresh := refresh } : Face).settings := rfl
  unfold refreshed
  dsimp only
  rw [hsettings]
  split
  · exact .done hrefresh
  · exact hrefresh.coupled_refreshWeather harmless true

theorem Twin.coupled_timerFired (twins : Twin free face other) (purpose : Purpose)
    (handle : Handle) :
    Coupled free (Twin free) (face.timerFired purpose handle)
      (other.timerFired purpose handle) := by
  obtain ⟨unit, rfl, hunit⟩ := twins
  unfold timerFired
  rw [popup_withTick, refresh_withTick]
  cases purpose with
  | bluetoothPopup =>
      dsimp only
      split
      · exact coupled_attempt_bind (.done ⟨unit, rfl, hunit⟩)
      · exact .done ⟨unit, rfl, hunit⟩
  | weatherRefresh =>
      dsimp only
      split
      · exact Twin.coupled_refreshed harmless ⟨unit, rfl, hunit⟩ _
      · exact .done ⟨unit, rfl, hunit⟩

omit harmless in
/-- Here twins part: where requests for ticks are free, one may be granted and the other not. -/
theorem Twin.coupled_resubscribe (twins : Twin free face other) :
    Coupled free (Twin free) face.resubscribe other.resubscribe := by
  obtain ⟨unit, rfl, hunit⟩ := twins
  refine coupled_attempt_bind (.ask fun answer reply hsame => ?_)
  rcases answer with cause | ⟨⟩ <;> rcases reply with fault | ⟨⟩
  · exact .done ⟨unit, rfl, hunit⟩
  · refine .done ⟨face.settings.tickUnit, rfl, fun hstrict => ?_⟩
    cases hsame (hstrict _)
  · refine .done ⟨unit, rfl, fun hstrict => ?_⟩
    cases hsame (hstrict _)
  · exact .done ⟨face.settings.tickUnit, rfl, fun _ => rfl⟩

theorem Twin.coupled_tuned (twins : Twin free face other) (message : Dictionary)
    (roused : Bool) :
    let rest := fun tuned : Face => do
      let now ← Dialogue.call .readClock
      if roused then (tuned.takeWeather message now).refreshWeather false
      else pure (tuned.takeWeather message now)
    Coupled free (Twin free) (rest face) (rest other) := by
  obtain ⟨unit, rfl, hunit⟩ := twins
  refine coupled_call_bind (harmless.strict rfl rfl) fun now => ?_
  have htaken : Twin free (face.takeWeather message now)
      ((face.withTick unit).takeWeather message now) := ⟨unit, rfl, hunit⟩
  split
  · exact htaken.coupled_refreshWeather harmless false
  · exact .done htaken

theorem Twin.coupled_received (twins : Twin free face other) (message : Dictionary) :
    Coupled free (Twin free) (face.received message) (other.received message) := by
  obtain ⟨unit, rfl, hunit⟩ := twins
  have hsettled : Twin free (face.settled message) ((face.withTick unit).settled message) :=
    ⟨unit, rfl, hunit⟩
  unfold received takeSettings Store.merge
  rw [store_withTick]
  simp only [bind_assoc, pure_bind]
  refine coupled_attempt_bind ?_
  split
  · exact hsettled.coupled_resubscribe.bind fun _ _ htuned =>
      htuned.coupled_tuned harmless message _
  · exact hsettled.coupled_tuned harmless message _

theorem Twin.coupled_react (twins : Twin free face other) (input : Input) :
    Coupled free (Twin free) (face.react input) (other.react input) := by
  rcases input with (_ | connected | payload | ⟨purpose, handle⟩) | force
  · exact coupled_attempt_bind (.done twins)
  · exact twins.coupled_connectionChanged harmless connected
  · simp only [react, dispatch, inbox]
    split
    · exact .done twins
    · exact twins.coupled_received harmless _
  · exact twins.coupled_timerFired harmless purpose handle
  · exact twins.coupled_refreshWeather harmless force

theorem Run.twins (run : Run platform opening turns face)
    (rival : Run platform beginning others other)
    (parallel : List.Forall₂ Turn.Parallel turns others)
    (starts : opening.map Exchange.call = beginning.map Exchange.call)
    (alike : AnswersAlike free (runLog opening turns) (runLog beginning others)) :
    Twin free face other ∧
      (runLog opening turns).map Exchange.call = (runLog beginning others).map Exchange.call ∧
      List.Forall₂ (fun turn twin => Twin free turn.after twin.after ∧
        turn.log.map Exchange.call = twin.log.map Exchange.call) turns others := by
  revert alike
  refine run.parallel_induction (motive := fun turns face others other =>
    AnswersAlike free (runLog opening turns) (runLog beginning others) →
    Twin free face other ∧
      (runLog opening turns).map Exchange.call = (runLog beginning others).map Exchange.call ∧
      List.Forall₂ (fun turn twin => Twin free turn.after twin.after ∧
        turn.log.map Exchange.call = twin.log.map Exchange.call) turns others)
    rival parallel (fun _ => ⟨.refl _, by simpa [runLog] using starts, .nil⟩) ?_
  intro turns others last final ih hlast one two halike
  rw [runLog_append, runLog_append, List.flatMap_singleton, List.flatMap_singleton] at halike ⊢
  obtain ⟨htwins, hcalls, hturns⟩ := ih halike.front
  rw [← hlast.1] at two
  -- the calls have been the same so far, so the answers are alike in the last turn too
  have hbehind : AnswersAlike free (last.log ++ []) (final.log ++ []) := by
    simpa using halike.back hcalls
  have hcoupled := htwins.coupled_react harmless last.input
  obtain ⟨hlog, hafter⟩ := hcoupled.alike one two hbehind
  refine ⟨hafter, ?_, forall₂_concat_iff.mpr ⟨hturns, hafter, hlog⟩⟩
  rw [List.map_append, List.map_append, hcalls, hlog]

end

/--
Two runs from the start, with the same inputs and clock.  Whatever the hosts
answer, the face learns the same in both.  Hosts that differ in answers nobody
heeds see the same calls, and the faces are equal after every turn.  With hosts
that differ in the answers to requests for ticks, only the tick that the face
remembers can differ, and the calls are again the same.
-/
theorem host_failures_stay_isolated
    (opens : (Face.start platform).Trace opening (ofPlatform platform))
    (begins : (Face.start platform).Trace beginning (ofPlatform platform))
    (run : Run platform opening turns face) (rival : Run platform beginning others other)
    (parallel : List.Forall₂ Turn.Parallel turns others) :
    (face.SameKnowledge other ∧
      List.Forall₂ (fun turn twin => turn.after.SameKnowledge twin.after) turns others) ∧
    (AnswersAlike Call.isUnheeded (runLog opening turns) (runLog beginning others) →
      face = other ∧
        (runLog opening turns).map Exchange.call = (runLog beginning others).map Exchange.call ∧
        List.Forall₂ (fun turn twin => turn.after = twin.after ∧
          turn.log.map Exchange.call = twin.log.map Exchange.call) turns others) ∧
    (AnswersAlike Call.isTickRequest (runLog opening turns) (runLog beginning others) →
      other = face.withTick other.tickUnit ∧
        (runLog opening turns).map Exchange.call = (runLog beginning others).map Exchange.call ∧
        List.Forall₂ (fun turn twin => twin.after = turn.after.withTick twin.after.tickUnit ∧
          turn.log.map Exchange.call = twin.log.map Exchange.call) turns others) := by
  have hstarts : opening.map Exchange.call = beginning.map Exchange.call := by
    obtain ⟨-, _, _, _, rfl⟩ := trace_start opens
    obtain ⟨-, _, _, _, rfl⟩ := trace_start begins
    rfl
  refine ⟨run.sameKnowledge rival parallel, fun halike => ?_, fun halike => ?_⟩
  · obtain ⟨htwins, hcalls, hturns⟩ :=
      run.twins harmless_isUnheeded rival parallel hstarts halike
    have hstrict : ∀ tick, Call.isUnheeded (.subscribeTick tick) = false := fun _ => rfl
    exact ⟨htwins.eq hstrict, hcalls,
      hturns.imp fun _ _ ⟨hafter, hlog⟩ => ⟨hafter.eq hstrict, hlog⟩⟩
  · obtain ⟨htwins, hcalls, hturns⟩ :=
      run.twins harmless_isTickRequest rival parallel hstarts halike
    exact ⟨htwins.eq_withTick, hcalls,
      hturns.imp fun _ _ ⟨hafter, hlog⟩ => ⟨hafter.eq_withTick, hlog⟩⟩

def lostTurn (pulse : Except ServiceError Unit) (timer : Except ServiceError Handle) : Turn where
  before := ofPlatform .colorRect
  input := .event (.connection false)
  log := [⟨.markDirty, ()⟩, ⟨.doublePulse, pulse⟩, ⟨.enableInteraction, .ok ()⟩,
    ⟨.schedule popupDelay .bluetoothPopup, timer⟩]
  after := (ofPlatform .colorRect).announced (timer.map fun _ => ())
    ⟨.bluetoothPopup, timer.toOption⟩

theorem run_lostTurn (pulse : Except ServiceError Unit) (timer : Except ServiceError Handle) :
    Run .colorRect openingGranted [lostTurn pulse timer] (lostTurn pulse timer).after := by
  refine .turn (.started trace_openingGranted) ?_
  cases timer with
  | error cause => exact .ask (.ask (.ask (.ask (.done _))))
  | ok handle => exact .ask (.ask (.ask (.ask (.done _))))

/--
Without a timer there is no popup, but the face knows the same; without the
vibration the popup is shown all the same; without its tick the face with the
second hand differs in the tick alone.
-/
theorem popup_shown_without_vibration :
    let works := lostTurn (.ok ()) (.ok 1)
    let untimed := lostTurn (.ok ()) (.error .outOfMemory)
    let unfelt := lostTurn (.error .busy) (.ok 1)
    (untimed.after.popupShown = false ∧ works.after.SameKnowledge untimed.after) ∧
      (unfelt.after.popupShown = true ∧ works.after = unfelt.after) ∧
      (refusedTurn.after ≠ grantedTurn.after ∧
        grantedTurn.after = refusedTurn.after.withTick .second) := by
  intro works untimed unfelt
  have huntimed := host_failures_stay_isolated trace_openingGranted trace_openingGranted
    (run_lostTurn (.ok ()) (.ok 1)) (run_lostTurn (.ok ()) (.error .outOfMemory))
    (.cons ⟨rfl, by decide⟩ .nil)
  have hunfelt := host_failures_stay_isolated trace_openingGranted trace_openingGranted
    (run_lostTurn (.ok ()) (.ok 1)) (run_lostTurn (.error .busy) (.ok 1))
    (.cons ⟨rfl, by decide⟩ .nil)
  have hgranted := host_failures_stay_isolated trace_openingGranted trace_openingGranted
    run_refusedTurn run_grantedTurn (.cons ⟨rfl, by decide⟩ .nil)
  refine ⟨⟨rfl, huntimed.1.1⟩, ⟨rfl, (hunfelt.2.1 ?_).1⟩, by decide, (hgranted.2.2 ?_).1⟩
  · simp [runLog, openingGranted, lostTurn, AnswersAlike, Call.isUnheeded]
  · simp [runLog, openingGranted, refusedTurn, grantedTurn, renewalLog, AnswersAlike,
      Call.isTickRequest]

end Face

end Watchface
