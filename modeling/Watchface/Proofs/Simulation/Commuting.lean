import Watchface.Proofs.Host.Commuting
import Watchface.Proofs.Simulation.Redelivery

/-!
# Connection changes and messages in either order

A connection change works on the popup, and a message on everything else.  Both
read the settings, but the connection change only two of them.  So unless a
message changes these two, it makes no difference which of both comes first:
each arms its own alarm last, and the rest is up to the watch.
-/

namespace Watchface

namespace Face

open Dialogue (ArmsLast armsLast_bind armsLast_attempt_bind armsLast_call_bind)
open Simulator (host)

variable {face other : Face} {connected : Bool} {message : Dictionary}

def withPopup (face : Face) (popup : Alarm) (shown : Bool) : Face :=
  { face with popup := popup, popupShown := shown }

structure SamePopup (face other : Face) : Prop where
  shown : face.popupShown = other.popupShown
  pending : face.popup.isPending = other.popup.isPending

/-- The faces agree in everything that has nothing to do with the popup. -/
structure SameRest (face other : Face) : Prop where
  store : face.store = other.store
  weather : face.weather = other.weather
  scriptReady : face.scriptReady = other.scriptReady
  tickUnit : face.tickUnit = other.tickUnit
  pending : face.refresh.isPending = other.refresh.isPending

theorem armsLast_showPopup (face : Face) : ArmsLast SamePopup face.popup face.showPopup := by
  have harm : ArmsLast SamePopup face.popup
      (face.popup.arm popupDelay >>= fun armed => .done (face.announced armed.1 armed.2)) := by
    apply ArmsLast.arm
    intro first second hresult hpending
    constructor
    case shown => simp only [announced, hresult, hpending]
    case pending => exact hpending
  exact armsLast_attempt_bind rfl harm

theorem armsLast_connectionChanged (face : Face) (connected : Bool) :
    ArmsLast SamePopup face.popup (face.connectionChanged connected) := by
  unfold connectionChanged
  apply armsLast_attempt_bind rfl
  apply armsLast_bind
  · intro log _ trace
    exact quiet_vibrates (vibrates_of_trace trace)
  · intro _ _ _
    split
    · exact armsLast_showPopup face
    · exact .done ⟨rfl, rfl⟩

theorem connectionChanged_congr
    (announces : other.settings.announces connected = face.settings.announces connected)
    (vibrates : other.settings.vibrates connected = face.settings.vibrates connected)
    (popup : other.popup = face.popup) (shown : other.popupShown = face.popupShown) :
    other.connectionChanged connected =
      (fun after : Face => other.withPopup after.popup after.popupShown) <$>
        face.connectionChanged connected := by
  have hshow : other.showPopup =
      (fun after : Face => other.withPopup after.popup after.popupShown) <$> face.showPopup := by
    simp only [showPopup, popup, map_bind]
    rfl
  have hsilent : other = other.withPopup face.popup face.popupShown := by
    rw [withPopup, ← popup, ← shown]
  unfold connectionChanged
  rw [announces, vibrates, hshow]
  simp only [map_bind]
  refine bind_congr fun _ => bind_congr fun _ => ?_
  cases face.settings.announces connected with
  | true => rfl
  | false => exact congrArg pure hsilent

variable {popup : Alarm} {shown : Bool}

def tune (face : Face) (message : Dictionary) : Dialogue Face :=
  if (face.settings.merge message).1.tickUnitChanged then (face.settled message).resubscribe
  else return face.settled message

def digest (face : Face) (message : Dictionary) (roused : Bool) : Dialogue Face := do
  let now ← Dialogue.call .readClock
  if roused then (face.takeWeather message now).refreshWeather false
  else return face.takeWeather message now

theorem received_eq (face : Face) (message : Dictionary) :
    face.received message = (do
      Dialogue.attempt .markDirty
      let tuned ← face.tune message
      tuned.digest message (face.rouses message)) := by
  unfold received takeSettings Store.merge tune
  simp only [bind_assoc, pure_bind]
  refine bind_congr fun _ => ?_
  have hmerged : face.settings.merge message = face.store.settings.merge message := rfl
  rw [hmerged]
  cases (face.store.settings.merge message).1.tickUnitChanged with
  | true => rfl
  | false => rfl

theorem armRefresh_withPopup (face : Face) :
    (face.withPopup popup shown).armRefresh =
      (fun after : Face => after.withPopup popup shown) <$> face.armRefresh := by
  have hdelay : (face.withPopup popup shown).settings.refreshDelay? =
    face.settings.refreshDelay? := rfl
  unfold armRefresh
  rw [hdelay]
  cases face.settings.refreshDelay? with
  | none => rfl
  | some delay =>
      simp only [map_bind]
      rfl

theorem refreshWeather_withPopup (face : Face) :
    (face.withPopup popup shown).refreshWeather false =
      (fun after : Face => after.withPopup popup shown) <$> face.refreshWeather false := by
  have hready : (face.withPopup popup shown).scriptReady = face.scriptReady := rfl
  unfold refreshWeather
  rw [hready, armRefresh_withPopup]
  cases face.scriptReady with
  | true =>
      simp only [if_true, map_bind]
      rfl
  | false => rfl

theorem resubscribe_withPopup (face : Face) :
    (face.withPopup popup shown).resubscribe =
      (fun after : Face => after.withPopup popup shown) <$> face.resubscribe := by
  unfold resubscribe
  simp only [map_bind]
  refine bind_congr fun _ => bind_congr fun answer => ?_
  cases answer <;> rfl

theorem tune_withPopup (face : Face) (message : Dictionary) :
    (face.withPopup popup shown).tune message =
      (fun after : Face => after.withPopup popup shown) <$> face.tune message := by
  have hmerged : ((face.withPopup popup shown).settings.merge message).1 =
    (face.settings.merge message).1 := rfl
  unfold tune
  rw [hmerged]
  cases (face.settings.merge message).1.tickUnitChanged with
  | true => exact resubscribe_withPopup (face.settled message)
  | false => rfl

theorem digest_withPopup (face : Face) (message : Dictionary) (roused : Bool) :
    (face.withPopup popup shown).digest message roused =
      (fun after : Face => after.withPopup popup shown) <$> face.digest message roused := by
  unfold digest
  rw [map_bind]
  refine bind_congr fun now => ?_
  cases roused with
  | true => exact refreshWeather_withPopup (face.takeWeather message now)
  | false => rfl

theorem inbox_withPopup (face : Face) (popup : Alarm) (shown : Bool) (payload : Bytes) :
    (face.withPopup popup shown).inbox payload =
      (fun after : Face => after.withPopup popup shown) <$> face.inbox payload := by
  unfold inbox
  cases Dictionary.parse payload with
  | error cause => rfl
  | ok message =>
      have hrouses : (face.withPopup popup shown).rouses message = face.rouses message := rfl
      simp only [received_eq, hrouses, map_bind, tune_withPopup, bind_map_left, digest_withPopup]

theorem armsLast_armRefresh (face : Face) : ArmsLast SameRest face.refresh face.armRefresh := by
  unfold armRefresh
  split
  · exact .done ⟨rfl, rfl, rfl, rfl, rfl⟩
  · next delay hdelay =>
    have harm : ArmsLast SameRest face.refresh
        (face.refresh.arm delay >>= fun armed => .done { face with refresh := armed.2 }) := by
      apply ArmsLast.arm
      intro first second _ hpending
      exact ⟨rfl, rfl, rfl, rfl, hpending⟩
    exact harm

theorem armsLast_refreshWeather (face : Face) :
    ArmsLast SameRest face.refresh (face.refreshWeather false) := by
  unfold refreshWeather
  split
  · apply armsLast_bind
    · intro log _ trace
      exact quiet_requests (requests_of_trace trace)
    · intro _ _ _
      exact armsLast_armRefresh face
  · exact .done ⟨rfl, rfl, rfl, rfl, rfl⟩

theorem retunes_of_trace {log : List Exchange} {after : Face}
    (h : (face.tune message).Trace log after) : face.Retunes message log after := by
  unfold tune at h
  split at h
  · next hchanged => exact .changed hchanged (resubscribes_of_trace h)
  · next hsame =>
    rw [Bool.not_eq_true] at hsame
    obtain ⟨rfl, rfl⟩ := Dialogue.trace_done_iff.mp h
    exact .same hsame

theorem armsLast_digest (face : Face) (message : Dictionary) (roused : Bool) :
    ArmsLast SameRest face.refresh (face.digest message roused) := by
  unfold digest
  refine armsLast_call_bind rfl fun now => ?_
  split
  · exact armsLast_refreshWeather (face.takeWeather message now)
  · exact .done ⟨rfl, rfl, rfl, rfl, rfl⟩

theorem armsLast_inbox (face : Face) (payload : Bytes) :
    ArmsLast SameRest face.refresh (face.inbox payload) := by
  unfold inbox
  cases Dictionary.parse payload with
  | error cause => exact .done ⟨rfl, rfl, rfl, rfl, rfl⟩
  | ok message =>
      have hreceived := face.received_eq message
      simp only [hreceived]
      apply armsLast_attempt_bind rfl
      apply armsLast_bind
      · intro log tuned trace
        exact quiet_retunes (retunes_of_trace trace)
      · intro log tuned trace
        have hrefresh : tuned.refresh = face.refresh := by
          obtain ⟨unit, rfl⟩ := (retunes_of_trace trace).frame
          rfl
        rw [← hrefresh]
        exact armsLast_digest tuned message (face.rouses message)

/-! ## Both on a watch -/

variable {watch : Simulator} {payload : Bytes}

theorem run_inbox_withPopup (face : Face) (popup : Alarm) (shown : Bool) (payload : Bytes)
    (watch : Simulator) :
    ((face.withPopup popup shown).inbox payload).run host watch =
      let outcome := (face.inbox payload).run host watch
      { outcome with value := outcome.value.withPopup popup shown } := by
  rw [inbox_withPopup, Dialogue.run_map]

theorem popup_run_inbox (face : Face) (payload : Bytes) (watch : Simulator) :
    ((face.inbox payload).run host watch).value.popup = face.popup ∧
      ((face.inbox payload).run host watch).value.popupShown = face.popupShown := by
  have hrun := run_inbox_withPopup face face.popup face.popupShown payload watch
  have hface : face.withPopup face.popup face.popupShown = face := rfl
  rw [hface] at hrun
  constructor
  · rw [hrun]
    rfl
  · rw [hrun]
    rfl

theorem run_connectionChanged_congr
    (announces : other.settings.announces connected = face.settings.announces connected)
    (vibrates : other.settings.vibrates connected = face.settings.vibrates connected)
    (popup : other.popup = face.popup) (shown : other.popupShown = face.popupShown)
    (watch : Simulator) :
    (other.connectionChanged connected).run host watch =
      let outcome := (face.connectionChanged connected).run host watch
      { outcome with
        value := other.withPopup outcome.value.popup outcome.value.popupShown } := by
  rw [connectionChanged_congr announces vibrates popup shown, Dialogue.run_map]

theorem value_run_connectionChanged (face : Face) (connected : Bool) (watch : Simulator) :
    let after := ((face.connectionChanged connected).run host watch).value
    after = face.withPopup after.popup after.popupShown := by
  have hannounces : face.settings.announces connected = face.settings.announces connected := rfl
  have hvibrates : face.settings.vibrates connected = face.settings.vibrates connected := rfl
  have hrun := run_connectionChanged_congr hannounces hvibrates rfl rfl watch
  exact congrArg Outcome.value hrun

end Face

namespace Simulation

open Simulator (host)

variable {simulation : Simulation} {connected : Bool} {payload : Bytes}

def connect (connected : Bool) : Step := .input (.event (.connection connected))

theorem step_deliver_after_connect (simulation : Simulation) (connected : Bool)
    (payload : Bytes) :
    let connects := simulation.step (connect connected)
    let outcome := (simulation.face.inbox payload).run host connects.2.watch
    connects.2.step (deliver payload) =
      (outcome.log, ⟨outcome.value.withPopup connects.2.face.popup connects.2.face.popupShown,
        outcome.state⟩) := by
  intro connects outcome
  have hface : connects.2.face =
      simulation.face.withPopup connects.2.face.popup connects.2.face.popupShown :=
    simulation.face.value_run_connectionChanged connected simulation.watch
  have hrun : (connects.2.face.inbox payload).run host connects.2.watch =
      { outcome with
        value := outcome.value.withPopup connects.2.face.popup connects.2.face.popupShown } := by
    rw [hface]
    exact Face.run_inbox_withPopup simulation.face connects.2.face.popup
      connects.2.face.popupShown payload connects.2.watch
  simp only [step, hold, deliver, Face.react, Face.dispatch, hrun]

theorem step_connect_after_deliver
    (announces : (simulation.step (deliver payload)).2.face.settings.announces connected =
      simulation.face.settings.announces connected)
    (vibrates : (simulation.step (deliver payload)).2.face.settings.vibrates connected =
      simulation.face.settings.vibrates connected) :
    let delivers := simulation.step (deliver payload)
    let outcome := (simulation.face.connectionChanged connected).run host delivers.2.watch
    delivers.2.step (connect connected) =
      (outcome.log, ⟨delivers.2.face.withPopup outcome.value.popup outcome.value.popupShown,
        outcome.state⟩) := by
  intro delivers outcome
  obtain ⟨hpopup, hshown⟩ := simulation.face.popup_run_inbox payload simulation.watch
  have hrun : (delivers.2.face.connectionChanged connected).run host delivers.2.watch =
      { outcome with
        value := delivers.2.face.withPopup outcome.value.popup outcome.value.popupShown } :=
    Face.run_connectionChanged_congr announces vibrates hpopup hshown delivers.2.watch
  simp only [step, hold, connect, Face.react, Face.dispatch, hrun]

/--
On a watch with any faults, a connection change and a message may come in
either order, provided that the alarms do not wait for the same timer, that
neither is given a handle which an alarm holds already, and that the message
leaves the two settings alone which the connection change looks at.  The face
comes out the same but for the handles of its timers.  The timers have the
same purposes and deadlines, and all other calls are made with the same answers.
-/
theorem connection_and_message_commute (simulation : Simulation) (connected : Bool)
    (payload : Bytes)
    (distinct : ∀ handle, simulation.face.popup.pending = some handle →
      simulation.face.refresh.pending ≠ some handle)
    (fresh : ∀ handle ∈ handlesIssued (simulation.step (connect connected)).1 ++
        handlesIssued (simulation.step (deliver payload)).1,
      ∀ purpose, simulation.face.pending purpose ≠ some handle)
    (announces : (simulation.step (deliver payload)).2.face.settings.announces connected =
      simulation.face.settings.announces connected)
    (vibrates : (simulation.step (deliver payload)).2.face.settings.vibrates connected =
      simulation.face.settings.vibrates connected) :
    let connects := simulation.step (connect connected)
    let first := connects.2.step (deliver payload)
    let delivers := simulation.step (deliver payload)
    let second := delivers.2.step (connect connected)
    first.2.face.settings = second.2.face.settings ∧
    first.2.face.weather = second.2.face.weather ∧
    first.2.face.scriptReady = second.2.face.scriptReady ∧
    first.2.face.tickUnit = second.2.face.tickUnit ∧
    first.2.face.popupShown = second.2.face.popupShown ∧
    (∀ purpose, (first.2.face.alarm purpose).isPending =
      (second.2.face.alarm purpose).isPending) ∧
    first.2.watch.deadlines.Perm second.2.watch.deadlines ∧
    (untimed (connects.1 ++ first.1)).Perm (untimed (delivers.1 ++ second.1)) := by
  intro connects first delivers second
  rw [List.forall_mem_append] at fresh
  have hcommute : Commute Face.SamePopup Face.SameRest
      (simulation.face.connectionChanged connected) (simulation.face.inbox payload)
      simulation.watch := by
    have hconnects := simulation.face.armsLast_connectionChanged connected
    apply hconnects.commute (simulation.face.armsLast_inbox payload) distinct
    · exact fun handle hmem => fresh.1 handle hmem .weatherRefresh
    · exact fun handle hmem => fresh.2 handle hmem .bluetoothPopup
  have hfirst : first = _ := step_deliver_after_connect simulation connected payload
  have hsecond : second = _ := step_connect_after_deliver announces vibrates
  rw [hfirst, hsecond]
  refine ⟨?_, ?_, ?_, ?_, ?_, ?_, hcommute.deadlines, hcommute.logs⟩
  · exact congrArg Store.settings hcommute.second.store.symm
  · exact hcommute.second.weather.symm
  · exact hcommute.second.scriptReady.symm
  · exact hcommute.second.tickUnit.symm
  · exact hcommute.first.shown
  · intro purpose
    cases purpose with
    | bluetoothPopup => exact hcommute.first.pending
    | weatherRefresh => exact hcommute.second.pending.symm

theorem first_timers_swap_handles :
    let simulation : Simulation :=
      ⟨Face.ofPlatform .colorRect, Simulator.initial 1000 fun _ => none⟩
    let ready : Bytes := [1, 109, 0, 0, 0, 2, 1, 0, 1]
    let connects := simulation.step (connect false)
    let first := connects.2.step (deliver ready)
    let delivers := simulation.step (deliver ready)
    let second := delivers.2.step (connect false)
    (first.2.face.pending .bluetoothPopup, first.2.face.pending .weatherRefresh) =
      (some 1, some 2) ∧
    (second.2.face.pending .bluetoothPopup, second.2.face.pending .weatherRefresh) =
      (some 2, some 1) ∧
    first.2.watch.deadlines.Perm second.2.watch.deadlines ∧
    (untimed (connects.1 ++ first.1)).Perm (untimed (delivers.1 ++ second.1)) := by
  intro simulation ready connects first delivers second
  have hidle : ∀ purpose, simulation.face.pending purpose = none := by
    intro purpose
    cases purpose <;> rfl
  have hfacts := connection_and_message_commute simulation false ready
    (fun handle hpending => by contradiction)
    (fun handle _ purpose => by simp [hidle purpose]) (by decide +kernel) (by decide +kernel)
  obtain ⟨-, -, -, -, -, -, hdeadlines, hlogs⟩ := hfacts
  exact ⟨by decide +kernel, by decide +kernel, hdeadlines, hlogs⟩

end Simulation

end Watchface
