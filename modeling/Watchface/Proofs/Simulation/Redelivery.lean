import Watchface.Proofs.Face.Knowledge
import Watchface.Proofs.Face.Request
import Watchface.Proofs.Simulation.Run

/-!
# Messages delivered twice

A message that comes once more before any time has passed changes nothing.
Merging it again leaves settings and weather as they are, so that no change is
noticed, and the refresh timer that it has set is set to the same deadline
again.  What remains are the redraw, a request for weather if that is still
due, and the call that moves the timer to where it is.
-/

namespace Watchface

namespace Face

open Simulator (host)

variable {face after : Face} {message : Dictionary} {watch : Simulator} {delay : UInt32}
  {now : UInt32}

/-- A message that the face has taken in at the time `now`. -/
structure Knows (face : Face) (message : Dictionary) (now : UInt32) : Prop where
  settings : (face.settings.merge message).2 = face.settings
  weather : (face.weather.merge message now).2 = face.weather
  scriptReady : (message.find? Message.scriptReady.key).isSome = true → face.scriptReady = true

theorem Learns.knows (h : face.Learns message now after) : after.Knows message now := by
  constructor
  case settings => rw [h.settings, Settings.merge_twice]
  case weather => rw [h.weather, Weather.merge_twice]
  case scriptReady =>
    intro hready
    rw [h.scriptReady, hready, Bool.or_true]

theorem Knows.run_received (h : face.Knows message watch.now) :
    (face.received message).run host watch =
      let rest := (if (message.find? Message.scriptReady.key).isSome then face.refreshWeather false
        else pure face).run host watch
      { rest with log := ⟨.markDirty, ()⟩ :: ⟨.readClock, watch.now⟩ :: rest.log } := by
  have hsettings : (face.store.settings.merge message).2 = face.store.settings := h.settings
  have htick : (face.store.settings.merge message).1.tickUnitChanged = false := by
    simpa [Settings.merge, Settings.update] using congrArg Settings.tickUnit hsettings
  have hinterval : (face.store.settings.merge message).1.weatherRefreshChanged = false := by
    simpa [Settings.merge, Settings.update] using congrArg Settings.weatherRefresh hsettings
  have hready : (face.scriptReady || (message.find? Message.scriptReady.key).isSome) =
      face.scriptReady := by
    cases hfound : (message.find? Message.scriptReady.key).isSome with
    | false => rw [Bool.or_false]
    | true => rw [h.scriptReady hfound, Bool.or_true]
  have htaken : face.takeWeather message watch.now = face := by
    rw [takeWeather, h.weather, hready]
  unfold received takeSettings Store.merge
  simp only [bind_assoc, pure_bind, hsettings, htick, hinterval, Bool.or_false,
    Bool.false_eq_true, if_false]
  have hclock : host.answer .readClock watch = (watch.now, watch) := rfl
  have hdirty : host.answer .markDirty watch = ((), watch) := rfl
  simp only [Dialogue.attempt, Dialogue.call, Dialogue.ask_bind, Dialogue.done_bind,
    Dialogue.run, hdirty, hclock]
  rw [htaken]

theorem run_requestIfDue (face : Face) (watch : Simulator) :
    (face.requestIfDue false).run host watch =
      ⟨(), watch, ⟨.readClock, watch.now⟩ ::
        if face.weather.isDue watch.now face.settings.weatherRefresh then
          [⟨.send fetchPayload, watch.serve .send⟩]
        else []⟩ := by
  have hclock : host.answer .readClock watch = (watch.now, watch) := rfl
  rw [requestIfDue, if_neg Bool.false_ne_true]
  simp only [Dialogue.call, Dialogue.ask_bind, Dialogue.done_bind, Dialogue.run, hclock]
  cases hdue : face.weather.isDue watch.now face.settings.weatherRefresh with
  | false => rfl
  | true =>
      simp only [if_true, requestWeather, fetchRequest_eq]
      rfl

theorem run_refreshWeather (ready : face.scriptReady = true) (watch : Simulator) :
    (face.refreshWeather false).run host watch =
      let request := (face.requestIfDue false).run host watch
      let armed := face.armRefresh.run host watch
      { armed with log := request.log ++ armed.log } := by
  rw [refreshWeather, if_pos ready, Dialogue.run_bind, run_requestIfDue]

theorem run_armRefresh_off (off : face.settings.refreshDelay? = none) (watch : Simulator) :
    face.armRefresh.run host watch = ⟨face, watch, []⟩ := by
  rw [armRefresh, off]
  rfl

theorem run_armRefresh_on (on : face.settings.refreshDelay? = some delay) (watch : Simulator) :
    face.armRefresh.run host watch =
      let armed := (face.refresh.arm delay).run host watch
      ⟨{ face with refresh := armed.value.2 }, armed.state, armed.log⟩ := by
  rw [armRefresh, on]
  simp only [Dialogue.run_bind, Dialogue.pure_eq, Dialogue.run_done, List.append_nil]

theorem run_armRefresh_of_isSet (on : face.settings.refreshDelay? = some delay)
    (set : watch.IsSet face.refresh delay) (reschedules : watch.faults .reschedule = none) :
    ∃ handle, face.refresh.pending = some handle ∧
      face.armRefresh.run host watch = ⟨face, watch, [⟨.reschedule handle delay, .ok ()⟩]⟩ := by
  obtain ⟨handle, hpending, harm⟩ := set.run_arm reschedules
  exact ⟨handle, hpending, by rw [run_armRefresh_on on, harm]⟩

theorem state_resubscribe (face : Face) (watch : Simulator) :
    (face.resubscribe.run host watch).state = watch := by
  have hanswer : host.answer (.subscribeTick face.settings.tickUnit) watch =
      (watch.serve .tick, watch) := rfl
  have hgiven : host.answer .unsubscribeTick watch = ((), watch) := rfl
  simp only [resubscribe, Dialogue.attempt, Dialogue.call, Dialogue.ask_bind, Dialogue.done_bind,
    Dialogue.run, hgiven, hanswer]
  split <;> rfl

theorem exists_run_received (ready : (message.find? Message.scriptReady.key).isSome = true)
    (face : Face) (watch : Simulator) :
    ∃ tuned : Face, tuned.scriptReady = true ∧
      ((face.received message).run host watch).value =
        ((tuned.refreshWeather false).run host watch).value ∧
      ((face.received message).run host watch).state =
        ((tuned.refreshWeather false).run host watch).state := by
  have htaken : ∀ tuned : Face, (tuned.takeWeather message watch.now).scriptReady = true :=
    fun tuned => by rw [takeWeather, ready, Bool.or_true]
  unfold received takeSettings Store.merge
  simp only [bind_assoc, pure_bind, ready, Bool.true_or, if_true]
  split
  · refine ⟨_, htaken ((face.settled message).resubscribe.run host watch).value, ?_, ?_⟩
    · change (((face.settled message).resubscribe >>= _).run host watch).value = _
      simp only [Dialogue.run_bind, state_resubscribe]
      rfl
    · change (((face.settled message).resubscribe >>= _).run host watch).state = _
      simp only [Dialogue.run_bind, state_resubscribe]
      rfl
  · exact ⟨_, htaken (face.settled message), rfl, rfl⟩

theorem isSet_received (ready : (message.find? Message.scriptReady.key).isSome = true)
    (schedules : watch.faults .schedule = none) (reschedules : watch.faults .reschedule = none)
    (fresh : watch.nextHandle ∉ watch.timers.map Simulator.Timer.handle) (face : Face) :
    let outcome := (face.received message).run host watch
    outcome.value.settings.refreshDelay? = some delay →
      outcome.state.IsSet outcome.value.refresh delay := by
  intro outcome hon
  obtain ⟨tuned, hready, hvalue, hstate⟩ := exists_run_received ready face watch
  rw [run_refreshWeather hready] at hvalue hstate
  have hrearms := rearms_of_trace (Dialogue.trace_run host tuned.armRefresh watch)
  have hsettings : outcome.value.settings = tuned.settings := by
    obtain ⟨refresh, hframe⟩ := hrearms.frame
    rw [show outcome.value = _ from hvalue, hframe]
    rfl
  rw [hsettings] at hon
  have hset := Simulator.isSet_arm schedules reschedules fresh tuned.refresh delay
  rw [show outcome.state = _ from hstate, show outcome.value = _ from hvalue,
    run_armRefresh_on hon]
  exact hset

end Face

/-! ## The second delivery -/

namespace Simulation

open Face (ReportsReady fetchPayload)

variable {simulation : Simulation} {message : Dictionary}

def requestsIn (log : List Exchange) : List Call :=
  (log.map Exchange.call).filter fun call => call != .readClock

/-- The face knows the message, and has set its refresh timer if the message reports readiness. -/
structure TakenIn (message : Dictionary) (simulation : Simulation) : Prop where
  knows : simulation.face.Knows message simulation.watch.now
  reschedules : simulation.watch.faults .reschedule = none
  set : (message.find? Message.scriptReady.key).isSome = true →
    ∀ delay, simulation.face.settings.refreshDelay? = some delay →
      simulation.watch.IsSet simulation.face.refresh delay

theorem takenIn_received (schedules : simulation.watch.faults .schedule = none)
    (reschedules : simulation.watch.faults .reschedule = none)
    (fresh : simulation.watch.nextHandle ∉ simulation.watch.timers.map Simulator.Timer.handle)
    (message : Dictionary) :
    TakenIn message (hold (simulation.face.received message) simulation.watch).2 := by
  have htrace := Dialogue.trace_run Simulator.host (simulation.face.received message)
    simulation.watch
  have hclock := Simulator.clockShows_run (simulation.face.received message) simulation.watch
  have hnow : (hold (simulation.face.received message) simulation.watch).2.watch.now =
      simulation.watch.now :=
    Dialogue.keeps_run (Simulator.now_kept simulation.watch.now) _ rfl
  constructor
  case knows =>
    rw [hnow]
    exact ((Face.receives_of_trace htrace).learns hclock.opens).knows
  case reschedules =>
    exact (congrFun (Simulator.faults_run _ simulation.watch) _).trans reschedules
  case set =>
    intro hready delay
    exact Face.isSet_received hready schedules reschedules fresh simulation.face

def leastRequests (simulation : Simulation) : List Call :=
  .markDirty ::
    if simulation.face.weather.isDue simulation.watch.now simulation.face.settings.weatherRefresh
    then [.send fetchPayload] else []

theorem TakenIn.received_quiet (h : TakenIn message simulation)
    (quiet : (message.find? Message.scriptReady.key).isSome = false) :
    let again := hold (simulation.face.received message) simulation.watch
    again.2 = simulation ∧ requestsIn again.1 = [.markDirty] := by
  simp only [hold, h.knows.run_received, quiet, Bool.false_eq_true, if_false, Dialogue.pure_eq,
    Dialogue.run_done, true_and]
  rfl

theorem TakenIn.received_ready (h : TakenIn message simulation)
    (ready : (message.find? Message.scriptReady.key).isSome = true) :
    let again := hold (simulation.face.received message) simulation.watch
    let armed := simulation.face.armRefresh.run Simulator.host simulation.watch
    again.2 = ⟨armed.value, armed.state⟩ ∧
      requestsIn again.1 = simulation.leastRequests ++ requestsIn armed.log := by
  have hready := h.knows.scriptReady ready
  simp only [hold, h.knows.run_received, ready, if_true, Face.run_refreshWeather hready,
    Face.run_requestIfDue, requestsIn, leastRequests, true_and]
  split <;> simp

theorem TakenIn.received_off (h : TakenIn message simulation)
    (ready : (message.find? Message.scriptReady.key).isSome = true)
    (off : simulation.face.settings.weatherRefresh = 0) :
    let again := hold (simulation.face.received message) simulation.watch
    again.2 = simulation ∧ requestsIn again.1 = simulation.leastRequests := by
  obtain ⟨hsame, hrequests⟩ := h.received_ready ready
  rw [Face.run_armRefresh_off (Face.refreshDelay?_eq_none_iff.mpr off)] at hsame hrequests
  exact ⟨hsame, hrequests.trans (List.append_nil _)⟩

theorem TakenIn.received_on (h : TakenIn message simulation)
    (ready : (message.find? Message.scriptReady.key).isSome = true)
    (on : simulation.face.settings.weatherRefresh ≠ 0) :
    let again := hold (simulation.face.received message) simulation.watch
    again.2 = simulation ∧
      ∃ handle delay, simulation.face.refresh.pending = some handle ∧
        simulation.face.settings.refreshDelay? = some delay ∧
        requestsIn again.1 = simulation.leastRequests ++ [.reschedule handle delay] := by
  obtain ⟨delay, hdelay⟩ := Option.ne_none_iff_exists'.mp
    (mt Face.refreshDelay?_eq_none_iff.mp on)
  obtain ⟨handle, hpending, harmed⟩ :=
    Face.run_armRefresh_of_isSet hdelay (h.set ready delay hdelay) h.reschedules
  obtain ⟨hsame, hrequests⟩ := h.received_ready ready
  rw [harmed] at hsame hrequests
  exact ⟨hsame, handle, delay, hpending, hdelay, hrequests⟩

theorem TakenIn.received_eq (h : TakenIn message simulation) :
    (hold (simulation.face.received message) simulation.watch).2 = simulation := by
  cases hready : (message.find? Message.scriptReady.key).isSome with
  | false => exact (h.received_quiet hready).1
  | true =>
      by_cases hoff : simulation.face.settings.weatherRefresh = 0
      · exact (h.received_off hready hoff).1
      · exact (h.received_on hready hoff).1

def deliver (payload : Bytes) : Step := .input (.event (.inbox payload))

theorem step_deliver {payload : Bytes} (h : payload ≠ []) (simulation : Simulation) :
    simulation.step (deliver payload) =
      hold (simulation.face.received (Dictionary.ofPayload payload)) simulation.watch := by
  simp only [deliver, step, Face.react, Face.dispatch, Face.inbox,
    Dictionary.parse_eq_ofPayload h]

theorem tickCalls_eq_nil_of_step {input : Face.Input}
    (h : (simulation.step (.input input)).2 = simulation) :
    tickCalls (simulation.step (.input input)).1 = [] := by
  have hreacts := simulation.reacts_respond input
  have hface : (simulation.respond input).2.face = simulation.face :=
    congrArg Simulation.face h
  have hcalls := hreacts.subscribes.calls_eq
  rw [hface, if_pos rfl] at hcalls
  exact List.map_eq_nil_iff.mp hcalls

/--
On a watch whose timers work and whose next handle is fresh, whatever the face
knows: a message that is delivered a second time at once leaves face and watch
exactly as they are.  It makes no tick calls, and none at all if it is empty.
It asks for a redraw, and unless it reports readiness for nothing else.  If it
does, weather is requested once more if that is still due, and if refresh is on
the pending timer is moved.
-/
theorem redelivery_is_harmless (simulation : Simulation) (payload : Bytes)
    (schedules : simulation.watch.faults .schedule = none)
    (reschedules : simulation.watch.faults .reschedule = none)
    (fresh : simulation.watch.nextHandle ∉ simulation.watch.timers.map Simulator.Timer.handle) :
    let once := (simulation.step (deliver payload)).2
    let again := once.step (deliver payload)
    again.2 = once ∧ tickCalls again.1 = [] ∧ (payload = [] → again.1 = []) ∧
    (payload ≠ [] → ¬ ReportsReady payload → requestsIn again.1 = [.markDirty]) ∧
    (ReportsReady payload → once.face.settings.weatherRefresh = 0 →
      requestsIn again.1 = once.leastRequests) ∧
    (ReportsReady payload → once.face.settings.weatherRefresh ≠ 0 →
      ∃ handle delay, once.face.refresh.pending = some handle ∧
        once.face.settings.refreshDelay? = some delay ∧
        requestsIn again.1 = once.leastRequests ++ [.reschedule handle delay]) := by
  intro once again
  by_cases hempty : payload = []
  · subst hempty
    have hunready : ¬ ReportsReady [] := by simp [ReportsReady, Dictionary.parse]
    exact ⟨rfl, rfl, fun _ => rfl, fun hne => absurd rfl hne,
      fun hready => absurd hready hunready, fun hready => absurd hready hunready⟩
  · have htaken : TakenIn (Dictionary.ofPayload payload) once := by
      have honce : once = (hold (simulation.face.received (Dictionary.ofPayload payload))
          simulation.watch).2 := congrArg Prod.snd (step_deliver hempty simulation)
      rw [honce]
      exact takenIn_received schedules reschedules fresh _
    have hready := Face.reportsReady_iff (Dictionary.parse_eq_ofPayload hempty)
    have hagain : again = hold (once.face.received (Dictionary.ofPayload payload)) once.watch :=
      step_deliver hempty once
    have hsame : again.2 = once := by rw [hagain, htaken.received_eq]
    refine ⟨hsame, tickCalls_eq_nil_of_step hsame, fun h => absurd h hempty, ?_, ?_, ?_⟩
    all_goals rw [hready, hagain]
    · intro _ hquiet
      exact (htaken.received_quiet (Bool.not_eq_true _ ▸ hquiet)).2
    · intro hfound hoff
      exact (htaken.received_off hfound hoff).2
    · intro hfound hon
      exact (htaken.received_on hfound hon).2

theorem readiness_may_be_reported_twice :
    let simulation : Simulation :=
      ⟨Face.ofPlatform .colorRect, Simulator.initial 1000 fun _ => none⟩
    let payload : Bytes := [2, 109, 0, 0, 0, 2, 1, 0, 1, 32, 0, 0, 0, 2, 1, 0, 1]
    let once := (simulation.step (deliver payload)).2
    let again := once.step (deliver payload)
    again.2 = once ∧
      requestsIn again.1 = [.markDirty, .send fetchPayload, .reschedule 1 1800000] := by
  intro simulation payload once again
  have hready : ReportsReady payload := by
    rw [Face.reportsReady_iff rfl]
    decide
  have hon : once.face.settings.weatherRefresh ≠ 0 := by decide +kernel
  have hfacts := redelivery_is_harmless simulation payload rfl rfl List.not_mem_nil
  obtain ⟨handle, delay, hpending, hdelay, hcalls⟩ := hfacts.2.2.2.2.2 hready hon
  have hhandle : once.face.refresh.pending = some 1 := by decide +kernel
  have hinterval : once.face.settings.refreshDelay? = some 1800000 := by decide +kernel
  have hrequests : once.leastRequests = [.markDirty, .send fetchPayload] := by decide +kernel
  obtain rfl := Option.some.inj (hpending.symm.trans hhandle)
  obtain rfl := Option.some.inj (hdelay.symm.trans hinterval)
  exact ⟨hfacts.1, by rw [hcalls, hrequests]; rfl⟩

end Simulation

end Watchface
