import Watchface.Proofs.Face.Popup
import Watchface.Proofs.Simulation.Run

/-!
# The popup is dismissed in time

Services may fail in any way and come back, as long as the watch keeps the
timers that it has and knows their handles.  `Timely` is what a simulation
then keeps: face and timers agree, no timer is overdue, and the popup's own is
due within the delay.  An armed alarm thus goes off in time, and the popup is
shown no longer than that.
-/

namespace Watchface.Simulation

open Face (Synchronized HidesInTime popupDelay)

variable {platform : Platform} {epoch : UInt32} {faults : Service → Option ServiceError}
  {log : List Exchange} {simulation : Simulation} {issued : List Handle}
  {input : Face.Input} {inputs : List Face.Input}

/-- A step that neither drops a timer nor makes up an expiry; any service may fail. -/
def Step.KeepsTimers : Step → Prop
  | .input received => received.isTimer = false
  | .disturb (.expire _) => False
  | .advance _ | .disturb (.fault _ _) | .disturb (.nextHandle _) | .disturb (.epoch _) => True

/-- As the inputs are played, the watch never calls the handle of a live timer invalid. -/
def Honest (simulation : Simulation) : List Face.Input → Prop
  | [] => True
  | input :: inputs =>
      Simulator.HonestIn (simulation.face.react input) simulation.watch ∧
        (simulation.respond input).2.Honest inputs

def HonestAt (simulation : Simulation) (step : Step) : Prop :=
  (simulation.bring step).2.Honest (simulation.bring step).1

theorem honest_of_faults (honest : simulation.watch.faults .reschedule ≠ some .invalidHandle)
    (inputs : List Face.Input) : simulation.Honest inputs := by
  induction inputs generalizing simulation with
  | nil => trivial
  | cons input inputs ih =>
      refine ⟨Simulator.honestIn_of_faults _ honest, ih ?_⟩
      have hfaults := Simulator.faults_run (simulation.face.react input) simulation.watch
      exact (congrFun hfaults .reschedule).trans_ne honest

/-- The states that a face reaches on a new watch that keeps its timers, with all exchanges. -/
inductive Reachable (platform : Platform) (epoch : UInt32)
    (faults : Service → Option ServiceError) : List Exchange → Simulation → Prop
  | fresh :
      Reachable platform epoch faults []
        ⟨Face.ofPlatform platform, Simulator.initial epoch faults⟩
  | started :
      Reachable platform epoch faults (start platform (Simulator.initial epoch faults)).1
        (start platform (Simulator.initial epoch faults)).2
  | step {log : List Exchange} {simulation : Simulation} {step : Step}
      (reachable : Reachable platform epoch faults log simulation)
      (keeps : step.KeepsTimers) (honest : simulation.HonestAt step) :
      Reachable platform epoch faults (log ++ (simulation.step step).1) (simulation.step step).2

theorem Reachable.run (h : Reachable platform epoch faults log simulation) :
    ∃ opening turns, Face.Run platform opening turns simulation.face := by
  induction h with
  | fresh => exact ⟨[], [], .fresh⟩
  | started =>
      exact ⟨_, [], .started (Dialogue.trace_run Simulator.host (Face.start platform)
        (Simulator.initial epoch faults))⟩
  | @step _ simulation step _ _ _ ih =>
      obtain ⟨opening, turns, hrun⟩ := ih
      exact ⟨opening, turns ++ simulation.turns step, run_step hrun step⟩

/-! ## The invariant -/

structure Timely (undelivered : List Expiry) (issued : List Handle) (simulation : Simulation) :
    Prop where
  synchronized : Synchronized (simulation.watch.service undelivered issued) simulation.face
  ahead : (simulation.watch.service undelivered issued).Ahead
  inTime : HidesInTime (simulation.watch.service undelivered issued)

theorem Timely.respond (h : Timely (expiries (input :: inputs)) issued simulation)
    (honest : Simulator.HonestIn (simulation.face.react input) simulation.watch)
    (fresh : (issuedAfter (simulation.respond input).1 issued).Nodup) :
    Timely (expiries inputs) (issuedAfter (simulation.respond input).1 issued)
      (simulation.respond input).2 := by
  obtain ⟨hsynchronized, htimes⟩ := synchronized_respond honest h.synchronized fresh
  exact ⟨hsynchronized, htimes.ahead h.ahead, htimes.hidesInTime h.inTime⟩

theorem Timely.play (h : Timely (expiries inputs) issued simulation)
    (honest : simulation.Honest inputs)
    (fresh : (issuedAfter ((simulation.play inputs).1.flatMap Face.Turn.log) issued).Nodup) :
    Timely [] (issuedAfter ((simulation.play inputs).1.flatMap Face.Turn.log) issued)
      (simulation.play inputs).2 := by
  induction inputs generalizing simulation issued with
  | nil => exact h
  | cons input inputs ih =>
      simp only [Simulation.play, List.flatMap_cons, issuedAfter_append] at fresh ⊢
      have hnext := h.respond honest.1 (List.nodup_append.mp fresh).2.1
      exact ih hnext honest.2 fresh

theorem Timely.advance (h : Timely [] issued simulation) (milliseconds : Nat) :
    Timely ((simulation.watch.advance milliseconds).1.map Simulator.Timer.expiry) issued
      ⟨simulation.face, (simulation.watch.advance milliseconds).2⟩ := by
  constructor
  case synchronized =>
    exact ⟨h.synchronized.purposes, Simulator.tracks_advance h.synchronized.tracks milliseconds⟩
  case ahead => exact Simulator.ahead_advance simulation.watch milliseconds
  case inTime => exact Simulator.within_advance h.inTime milliseconds

theorem Timely.bring (h : Timely [] issued simulation) {step : Step}
    (keeps : step.KeepsTimers) :
    Timely (expiries (simulation.bring step).1) issued (simulation.bring step).2 := by
  cases step with
  | input input =>
      rw [Simulation.bring, expiries_untimed keeps]
      exact h
  | advance milliseconds =>
      rw [expiries_due]
      exact h.advance milliseconds
  | disturb disturbance =>
      cases disturbance with
      | expire => exact keeps.elim
      | fault | nextHandle | epoch => exact ⟨h.synchronized, h.ahead, h.inTime⟩

theorem Timely.step (h : Timely [] issued simulation) {step : Step} (keeps : step.KeepsTimers)
    (honest : simulation.HonestAt step)
    (fresh : (issuedAfter (simulation.step step).1 issued).Nodup) :
    Timely [] (issuedAfter (simulation.step step).1 issued) (simulation.step step).2 := by
  rw [step_eq_play] at fresh ⊢
  exact (h.bring keeps).play honest fresh

theorem timely_ofPlatform :
    Timely [] [] ⟨Face.ofPlatform platform, Simulator.initial epoch faults⟩ := by
  refine ⟨Face.synchronized_ofPlatform [] 0, ?_, ?_⟩
  all_goals
    intro timer hmem
    contradiction

theorem Reachable.timely (h : Reachable platform epoch faults log simulation)
    (fresh : (handlesIssued log).Nodup) : Timely [] (issuedAfter log []) simulation := by
  rw [← nodup_issuedAfter_iff] at fresh
  induction h with
  | fresh | started => exact timely_ofPlatform
  | step _ keeps honest ih =>
      rw [issuedAfter_append] at fresh ⊢
      exact (ih (List.nodup_append.mp fresh).2.1).step keeps honest fresh

theorem Timely.timersOf_popup (h : Timely [] issued simulation) {handle : Handle}
    (pending : simulation.face.popup.pending = some handle) :
    ∃ timer, simulation.watch.timersOf .bluetoothPopup = [timer] ∧ timer.handle = handle ∧
      simulation.watch.elapsed < timer.deadline ∧
      timer.deadline ≤ simulation.watch.elapsed + popupDelay.toNat := by
  have hpending : simulation.face.pending .bluetoothPopup = some handle := pending
  obtain ⟨timer, htimer, hhandle⟩ :=
    h.synchronized.tracks.timersOf_of_delivered hpending rfl
  have hself := List.mem_singleton_self timer
  rw [← htimer] at hself
  exact ⟨timer, htimer, hhandle, h.ahead timer (TimerService.mem_timersOf.mp hself).1,
    h.inTime timer hself⟩

theorem popup_of_play (due : List Simulator.Timer)
    (awaited : ∀ handle, simulation.face.popup.pending = some handle →
      ∃ timer ∈ due, timer.purpose = .bluetoothPopup ∧ timer.handle = handle) :
    (simulation.play (due.map fun timer =>
      .event (.timer timer.purpose timer.handle))).2.face.popup.pending = none := by
  induction due generalizing simulation with
  | nil =>
      rw [List.map_nil, play, Option.eq_none_iff_forall_ne_some]
      intro handle hpending
      obtain ⟨timer, hmem, -⟩ := awaited handle hpending
      contradiction
  | cons timer due ih =>
      refine ih fun handle hpending => ?_
      -- what is still pending was so before, and this timer was not the one
      obtain ⟨hbefore, hother⟩ := (simulation.reacts_respond _).popup_of_timer hpending
      obtain ⟨found, hmem, hfound⟩ := awaited handle hbefore
      rcases List.mem_cons.mp hmem with rfl | hmem
      · exact absurd hfound hother
      · exact ⟨found, hmem, hfound⟩

theorem Timely.popup_of_advance (h : Timely [] issued simulation) {milliseconds : Nat}
    (long : popupDelay.toNat ≤ milliseconds) :
    (simulation.step (.advance milliseconds)).2.face.popup.pending = none := by
  rw [step_eq_play]
  refine popup_of_play _ fun handle hpending => ?_
  obtain ⟨timer, htimer, hhandle, -, hdeadline⟩ := h.timersOf_popup hpending
  have hself := List.mem_singleton_self timer
  rw [← htimer] at hself
  obtain ⟨hlive, hpurpose⟩ := Simulator.mem_timersOf.mp hself
  exact ⟨timer, Simulator.mem_due.mpr ⟨hlive, by omega⟩, hpurpose, hhandle⟩

theorem Timely.popup_of_connection (h : Timely [] issued simulation) {connected : Bool}
    (announces : simulation.face.settings.announces connected = true)
    (honest : simulation.HonestAt (.input (.event (.connection connected))))
    (fresh : (issuedAfter (simulation.respond (.event (.connection connected))).1 issued).Nodup)
    (works : Schedules (simulation.respond (.event (.connection connected))).1 ∧
      Reschedules (simulation.respond (.event (.connection connected))).1) :
    let after := (simulation.respond (.event (.connection connected))).2
    after.face.popupShown = true ∧
      ∃ handle, after.face.popup.pending = some handle ∧
        after.watch.timersOf .bluetoothPopup =
          [⟨handle, .bluetoothPopup, after.watch.elapsed + popupDelay.toNat⟩] := by
  intro after
  have hbefore : Timely (expiries [.event (.connection connected)]) issued simulation := h
  have hafter := hbefore.respond honest.1 fresh
  have hreplies := replies_respond honest.1 hbefore.synchronized fresh
  have hconnects := Face.connects_of_trace
    (Dialogue.trace_run Simulator.host (simulation.face.connectionChanged connected)
      simulation.watch)
  obtain ⟨hsets, hshown⟩ :=
    h.synchronized.sets_of_connects announces hconnects hreplies works
  obtain ⟨handle, htimer⟩ := hsets.timer
  rw [← hsets.elapsed] at htimer
  have hself := List.mem_singleton_self
    (⟨handle, .bluetoothPopup, after.watch.elapsed + popupDelay.toNat⟩ : Simulator.Timer)
  have hlive := (Simulator.mem_timersOf.mp (htimer ▸ hself)).1
  exact ⟨hshown, handle, hafter.synchronized.tracks.owned _ hlive, htimer⟩

/--
On a simulated watch that keeps its timers, whatever services fail, after every
step: if the popup is shown it has one timer, which its alarm waits for and
which is due later than now and within 5000 milliseconds.  So the popup is
gone after any step that lets as much time pass.  A connection change that is
announced and whose timer calls succeed leaves exactly 5000 milliseconds.
-/
theorem shown_popup_is_dismissed_in_time
    (reachable : Reachable platform epoch faults log simulation)
    (fresh : (handlesIssued log).Nodup) :
    (simulation.face.popupShown = true →
      ∃ timer, simulation.watch.timersOf .bluetoothPopup = [timer] ∧
        simulation.face.popup.pending = some timer.handle ∧
        simulation.watch.elapsed < timer.deadline ∧
        timer.deadline ≤ simulation.watch.elapsed + 5000) ∧
    (∀ milliseconds ≥ 5000,
      let after := (simulation.step (.advance milliseconds)).2
      after.face.popupShown = false ∧ after.face.popup.pending = none) ∧
    ∀ connected, simulation.face.settings.announces connected = true →
      let step := Step.input (.event (.connection connected))
      let behind := (simulation.step step).1
      let after := (simulation.step step).2
      simulation.HonestAt step → (handlesIssued (log ++ behind)).Nodup →
      Schedules behind → Reschedules behind →
      after.face.popupShown = true ∧
        ∃ handle, after.face.popup.pending = some handle ∧
          after.watch.timersOf .bluetoothPopup =
            [⟨handle, .bluetoothPopup, after.watch.elapsed + 5000⟩] := by
  have htimely := reachable.timely fresh
  obtain ⟨opening, turns, hrun⟩ := reachable.run
  refine ⟨fun hshown => ?_, fun milliseconds hlong => ?_, fun connected hannounces => ?_⟩
  · rw [hrun.popupShown_eq] at hshown
    obtain ⟨handle, hpending⟩ := Option.isSome_iff_exists.mp hshown
    obtain ⟨timer, htimer, rfl, hahead, hinTime⟩ := htimely.timersOf_popup hpending
    exact ⟨timer, htimer, hpending, hahead, hinTime⟩
  · intro after
    have hidle : after.face.popup.pending = none := htimely.popup_of_advance hlong
    refine ⟨?_, hidle⟩
    rw [(run_step hrun (.advance milliseconds)).popupShown_eq, Alarm.isPending, hidle]
    rfl
  · intro step behind after honest hfresh schedules reschedules
    rw [← nodup_issuedAfter_iff, issuedAfter_append] at hfresh
    exact htimely.popup_of_connection hannounces honest hfresh ⟨schedules, reschedules⟩

/--
The second change cannot move the timer, so the popup still goes after the
delay of the first; the third change can.
-/
theorem popup_goes_while_timers_are_busy :
    let lost := Step.input (.event (.connection false))
    let found := Step.input (.event (.connection true))
    let started := (start .colorRect (Simulator.initial 1000 fun _ => none)).2
    let waited := ((started.step lost).2.step (.advance 3000)).2
    let busy := (waited.step (.disturb (.fault .reschedule (some .busy)))).2
    let kept := (busy.step found).2
    let works := (kept.step (.disturb (.fault .reschedule none))).2
    let moved := (works.step lost).2
    (∃ timer, kept.watch.timersOf .bluetoothPopup = [timer] ∧
      3000 < timer.deadline ∧ timer.deadline ≤ 8000) ∧
    (kept.step (.advance 5000)).2.face.popupShown = false ∧
    ∃ handle, moved.watch.timersOf .bluetoothPopup = [⟨handle, .bluetoothPopup, 8000⟩] := by
  intro lost found started waited busy kept works moved
  have hstarted : Reachable .colorRect 1000 (fun _ => none) _ started := .started
  have hlost : Reachable .colorRect 1000 (fun _ => none) _ (started.step lost).2 :=
    hstarted.step rfl (honest_of_faults (by decide +kernel) _)
  have hwaited : Reachable .colorRect 1000 (fun _ => none) _ waited :=
    hlost.step trivial (honest_of_faults (by decide +kernel) _)
  have hbusy : Reachable .colorRect 1000 (fun _ => none) _ busy := hwaited.step trivial trivial
  have hkept : Reachable .colorRect 1000 (fun _ => none) _ kept :=
    hbusy.step rfl (honest_of_faults (by decide +kernel) _)
  have hworks : Reachable .colorRect 1000 (fun _ => none) _ works := hkept.step trivial trivial
  have hshown : kept.face.popupShown = true := by decide +kernel
  have hkeptElapsed : kept.watch.elapsed = 3000 := by decide +kernel
  have hmovedElapsed : moved.watch.elapsed = 3000 := by decide +kernel
  obtain ⟨hexists, hgone, -⟩ := shown_popup_is_dismissed_in_time hkept (by decide +kernel)
  obtain ⟨timer, htimer, -, hahead, hinTime⟩ := hexists hshown
  rw [hkeptElapsed] at hahead hinTime
  obtain ⟨-, -, hmoves⟩ := shown_popup_is_dismissed_in_time hworks (by decide +kernel)
  have hschedules : Schedules (works.step lost).1 :=
    Simulator.schedules_run (works.face.react (.event (.connection false))) (by decide +kernel)
  have hreschedules : Reschedules (works.step lost).1 :=
    Simulator.reschedules_run (works.face.react (.event (.connection false))) (by decide +kernel)
  obtain ⟨-, handle, -, hmoved⟩ := hmoves false (by decide +kernel)
    (honest_of_faults (by decide +kernel) _) (by decide +kernel) hschedules hreschedules
  change moved.watch.timersOf .bluetoothPopup =
    [⟨handle, .bluetoothPopup, moved.watch.elapsed + 5000⟩] at hmoved
  rw [hmovedElapsed] at hmoved
  exact ⟨⟨timer, htimer, hahead, hinTime⟩, (hgone 5000 (Nat.le_refl _)).1, handle, hmoved⟩

end Watchface.Simulation
