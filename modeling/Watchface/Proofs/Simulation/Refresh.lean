import Watchface.Proofs.Face.Timing
import Watchface.Proofs.Simulation.Run

/-!
# Periodic refresh never stops

`Punctual` is what a simulation keeps from turn to turn as long as its timers
are spared: face and timers agree, no timer is overdue, and the refresh timer
is due within one interval.  The main statement adds that there is such a
timer, and that an update leaves it exactly one interval away.
-/

namespace Watchface.Simulation

open Face (Refreshing RefreshesWithin Synchronized)

variable {platform : Platform} {epoch : UInt32} {faults : Service → Option ServiceError}
  {steps : List Step} {log : List Exchange} {simulation : Simulation} {issued : List Handle}

/--
A step that leaves the timers to themselves: none is fired from outside or
dropped, and the service goes on working.
-/
def Step.SparesTimers : Step → Prop
  | .input received => received.isTimer = false
  | .advance _ => True
  | .disturb (.fault service fault) =>
      service = .schedule ∨ service = .reschedule → fault = none
  | .disturb (.expire _) => False
  | .disturb (.nextHandle _) | .disturb (.epoch _) => True

structure Working (watch : Simulator) : Prop where
  schedules : watch.faults .schedule = none
  reschedules : watch.faults .reschedule = none

theorem Working.setFault {watch : Simulator} {service : Service} {fault : Option ServiceError}
    (h : Working watch) (spares : Step.SparesTimers (.disturb (.fault service fault))) :
    Working (watch.setFault service fault) :=
  ⟨Simulator.faults_setFault_eq_none h.schedules fun heq => spares (.inl heq.symm),
    Simulator.faults_setFault_eq_none h.reschedules fun heq => spares (.inr heq.symm)⟩

theorem Working.honest {watch : Simulator} (h : Working watch) :
    watch.faults .reschedule ≠ some .invalidHandle := by
  simp [h.reschedules]

/-! ## The invariant -/

structure Punctual (undelivered : List Expiry) (issued : List Handle) (simulation : Simulation) :
    Prop where
  working : Working simulation.watch
  synchronized : Synchronized (simulation.watch.service undelivered issued) simulation.face
  refreshing : Refreshing simulation.face
  ahead : (simulation.watch.service undelivered issued).Ahead
  within : RefreshesWithin (· ≤ ·) (simulation.watch.service undelivered issued) simulation.face

def Renewed (simulation : Simulation) : Prop :=
  RefreshesWithin (· = ·) (simulation.watch.service [] []) simulation.face

variable {input : Face.Input} {inputs : List Face.Input}

theorem Punctual.respond (h : Punctual (expiries (input :: inputs)) issued simulation)
    (fresh : (issuedAfter (simulation.respond input).1 issued).Nodup) :
    Punctual (expiries inputs) (issuedAfter (simulation.respond input).1 issued)
      (simulation.respond input).2 ∧
    (simulation.face.Updates input ∨ simulation.Renewed →
      (simulation.respond input).2.Renewed) := by
  have hhonest := Simulator.honestIn_of_faults (simulation.face.react input) h.working.honest
  obtain ⟨hsynchronized, htimes⟩ := synchronized_respond hhonest h.synchronized fresh
  have hreacts := simulation.reacts_respond input
  have hfaults := Simulator.faults_run (simulation.face.react input) simulation.watch
  have hworks : Schedules (simulation.respond input).1 ∧
      Reschedules (simulation.respond input).1 :=
    ⟨Simulator.schedules_run _ h.working.schedules,
      Simulator.reschedules_run _ h.working.reschedules⟩
  constructor
  · constructor
    case working =>
      exact ⟨(congrFun hfaults _).trans h.working.schedules,
        (congrFun hfaults _).trans h.working.reschedules⟩
    case synchronized => exact hsynchronized
    case refreshing => exact hreacts.refreshing h.refreshing hworks.1
    case ahead => exact htimes.ahead h.ahead
    case within => exact htimes.refreshesWithin hworks Nat.le_refl (.inr h.within)
  · exact htimes.refreshesWithin hworks fun _ => rfl

theorem Punctual.play (h : Punctual (expiries inputs) issued simulation)
    (fresh : (issuedAfter ((simulation.play inputs).1.flatMap Face.Turn.log) issued).Nodup) :
    Punctual [] (issuedAfter ((simulation.play inputs).1.flatMap Face.Turn.log) issued)
      (simulation.play inputs).2 ∧
    ((∃ turn ∈ (simulation.play inputs).1, turn.before.Updates turn.input) ∨
      simulation.Renewed → (simulation.play inputs).2.Renewed) := by
  induction inputs generalizing simulation issued with
  | nil =>
      refine ⟨h, ?_⟩
      rintro (⟨turn, hmem, -⟩ | hrenewed)
      · contradiction
      · exact hrenewed
  | cons input inputs ih =>
      simp only [Simulation.play, List.flatMap_cons, issuedAfter_append] at fresh ⊢
      obtain ⟨hnext, hrenews⟩ := h.respond (List.nodup_append.mp fresh).2.1
      obtain ⟨hlast, hkeeps⟩ := ih hnext fresh
      refine ⟨hlast, fun hbefore => hkeeps ?_⟩
      simp only [List.mem_cons, exists_eq_or_imp] at hbefore
      rcases hbefore with (hupdates | hlater) | hrenewed
      · exact .inr (hrenews (.inl hupdates))
      · exact .inl hlater
      · exact .inr (hrenews (.inr hrenewed))

theorem Punctual.advance (h : Punctual [] issued simulation) (milliseconds : Nat) :
    Punctual ((simulation.watch.advance milliseconds).1.map Simulator.Timer.expiry) issued
      ⟨simulation.face, (simulation.watch.advance milliseconds).2⟩ := by
  constructor
  case working => exact ⟨h.working.schedules, h.working.reschedules⟩
  case synchronized =>
    exact ⟨h.synchronized.purposes, Simulator.tracks_advance h.synchronized.tracks milliseconds⟩
  case refreshing => exact h.refreshing
  case ahead => exact Simulator.ahead_advance simulation.watch milliseconds
  case within =>
    intro hready hon
    exact Simulator.within_advance (h.within hready hon) milliseconds

theorem Punctual.disturb (h : Punctual [] issued simulation)
    {disturbance : Simulator.Disturbance} (spares : Step.SparesTimers (.disturb disturbance)) :
    Punctual [] issued ⟨simulation.face, simulation.watch.disturb disturbance⟩ := by
  cases disturbance with
  | fault service fault =>
      have hworking : Working (simulation.watch.setFault service fault) :=
        h.working.setFault spares
      exact ⟨hworking, h.synchronized, h.refreshing, h.ahead, h.within⟩
  | expire => exact spares.elim
  | nextHandle | epoch =>
      exact ⟨⟨h.working.schedules, h.working.reschedules⟩, h.synchronized, h.refreshing, h.ahead,
        h.within⟩

theorem Punctual.bring (h : Punctual [] issued simulation) {step : Step}
    (spares : step.SparesTimers) :
    Punctual (expiries (simulation.bring step).1) issued (simulation.bring step).2 := by
  cases step with
  | input input =>
      rw [Simulation.bring, expiries_untimed spares]
      exact h
  | advance milliseconds =>
      rw [expiries_due]
      exact h.advance milliseconds
  | disturb disturbance => exact h.disturb spares

theorem Punctual.step (h : Punctual [] issued simulation) {step : Step}
    (spares : step.SparesTimers)
    (fresh : (issuedAfter (simulation.step step).1 issued).Nodup) :
    Punctual [] (issuedAfter (simulation.step step).1 issued) (simulation.step step).2 ∧
    ((∃ turn ∈ simulation.turns step, turn.before.Updates turn.input) →
      (simulation.step step).2.Renewed) := by
  rw [step_eq_play] at fresh ⊢
  obtain ⟨hlast, hrenews⟩ := (h.bring spares).play fresh
  exact ⟨hlast, fun hupdates => hrenews (.inl hupdates)⟩

theorem punctual_ofPlatform (schedules : faults .schedule = none)
    (reschedules : faults .reschedule = none) :
    Punctual [] [] ⟨Face.ofPlatform platform, Simulator.initial epoch faults⟩ := by
  constructor
  case working => exact ⟨schedules, reschedules⟩
  case synchronized => exact Face.synchronized_ofPlatform [] 0
  case refreshing => exact Face.refreshing_ofPlatform
  case ahead =>
    intro timer hmem
    contradiction
  case within =>
    intro hready
    contradiction

theorem Run.punctual (run : Run platform epoch faults steps log simulation)
    (schedules : faults .schedule = none) (reschedules : faults .reschedule = none)
    (spares : ∀ step ∈ steps, step.SparesTimers) (fresh : (issuedAfter log []).Nodup) :
    Punctual [] (issuedAfter log []) simulation := by
  induction run with
  | fresh | started => exact punctual_ofPlatform schedules reschedules
  | step _ ih =>
      simp only [List.mem_append, List.mem_singleton, or_imp, forall_and, forall_eq] at spares
      rw [issuedAfter_append] at fresh ⊢
      have hbefore := ih spares.1 (List.nodup_append.mp fresh).2.1
      exact (hbefore.step spares.2 fresh).1

theorem Punctual.timersOf_refresh (h : Punctual [] issued simulation)
    (ready : simulation.face.scriptReady = true)
    (on : simulation.face.settings.weatherRefresh ≠ 0) :
    ∃ timer, simulation.watch.timersOf .weatherRefresh = [timer] := by
  obtain ⟨handle, hpending⟩ : ∃ handle, simulation.face.pending .weatherRefresh = some handle :=
    Option.isSome_iff_exists.mp (h.refreshing.pending ready on)
  obtain ⟨timer, htimer, -⟩ := h.synchronized.tracks.timersOf_of_delivered hpending rfl
  exact ⟨timer, htimer⟩

/--
On every host that schedules timers, after every turn: the refresh alarm is
pending if the script is ready and refresh is on, and idle if the script is not
ready.  On a simulated watch whose timers are spared, after every step with the
script ready and refresh on: there is one refresh timer, it is due later than
now and within one interval, and in exactly one interval if the step updated
the weather.
-/
theorem refresh_never_stops :
    (∀ {platform : Platform} {opening : List Exchange} {turns : List Face.Turn} {face : Face},
      Face.Run platform opening turns face → (∀ turn ∈ turns, Schedules turn.log) →
      (face.scriptReady = true → face.settings.weatherRefresh ≠ 0 →
        face.refresh.isPending = true) ∧
      (face.scriptReady = false → face.refresh.pending = none)) ∧
    ∀ {platform : Platform} {epoch : UInt32} {faults : Service → Option ServiceError}
      {steps : List Step} {log : List Exchange} {simulation : Simulation} {step : Step},
      Run platform epoch faults steps log simulation →
      faults .schedule = none → faults .reschedule = none →
      (∀ other ∈ steps ++ [step], other.SparesTimers) →
      (handlesIssued (log ++ (simulation.step step).1)).Nodup →
      let after := (simulation.step step).2
      let interval := after.face.settings.weatherRefresh.toNat * 60000
      after.face.scriptReady = true → after.face.settings.weatherRefresh ≠ 0 →
      ∃ timer, after.watch.timersOf .weatherRefresh = [timer] ∧
        after.watch.elapsed < timer.deadline ∧
        timer.deadline ≤ after.watch.elapsed + interval ∧
        ((∃ turn ∈ simulation.turns step, turn.before.Updates turn.input) →
          timer.deadline = after.watch.elapsed + interval) := by
  constructor
  · intro platform opening turns face run schedules
    have hrefreshing := run.refreshing schedules
    exact ⟨hrefreshing.pending, hrefreshing.idle⟩
  · intro platform epoch faults steps log simulation step run schedules reschedules spares fresh
      after interval hready hon
    have hfresh := nodup_issuedAfter_iff.mpr fresh
    simp only [List.mem_append, List.mem_singleton, or_imp, forall_and, forall_eq] at spares
    rw [issuedAfter_append] at hfresh
    have hbefore := run.punctual schedules reschedules spares.1 (List.nodup_append.mp hfresh).2.1
    obtain ⟨hafter, hrenews⟩ := hbefore.step spares.2 hfresh
    obtain ⟨timer, htimer⟩ := hafter.timersOf_refresh hready hon
    have hself : timer ∈ after.watch.timersOf .weatherRefresh := by
      rw [htimer]
      exact List.mem_cons_self
    exact ⟨timer, htimer, hafter.ahead timer (TimerService.mem_timersOf.mp hself).1,
      hafter.within hready hon timer hself,
      fun hupdates => hrenews hupdates hready hon timer hself⟩

theorem refresh_goes_on_after_expiry :
    let ready := Face.Input.event (.inbox [1, 109, 0, 0, 0, 2, 1, 0, 1])
    let started := (start .colorRect (Simulator.initial 1000 fun _ => none)).2
    let simulation := (started.step (.input ready)).2
    let after := (simulation.step (.advance 1800000)).2
    (started.respond ready).2.face.refresh.isPending = true ∧
      ∃ timer, after.watch.timersOf .weatherRefresh = [timer] ∧
        timer.deadline = after.watch.elapsed + 1800000 := by
  intro ready started simulation after
  have hturn : Face.Run .colorRect _ _ (started.respond ready).2.face :=
    .turn (.started (Dialogue.trace_run Simulator.host _ (Simulator.initial 1000 fun _ => none)))
      (Dialogue.trace_run Simulator.host _ started.watch)
  have hschedules : Schedules (started.respond ready).1 :=
    Simulator.schedules_run (started.face.react ready) rfl
  have hrefreshing := refresh_never_stops.1 hturn (List.forall_mem_singleton.mpr hschedules)
  have hrun : Run .colorRect 1000 (fun _ => none) [.input ready] _ simulation := .step .started
  have hspares : ∀ other ∈ [.input ready] ++ [Step.advance 1800000], other.SparesTimers := by
    simp [Step.SparesTimers, ready, Face.Input.isTimer, Event.isTimer]
  have hfresh : (handlesIssued ((start .colorRect (Simulator.initial 1000 fun _ => none)).1 ++
      (started.step (.input ready)).1 ++ (simulation.step (.advance 1800000)).1)).Nodup := by
    decide +kernel
  have hon : after.face.settings.weatherRefresh = 30 := by decide +kernel
  have hready : after.face.scriptReady = true := by decide +kernel
  have hdue : (simulation.watch.advance 1800000).1 = [⟨1, .weatherRefresh, 1800000⟩] := by
    decide +kernel
  have hupdates : ∃ turn ∈ simulation.turns (.advance 1800000),
      turn.before.Updates turn.input := by
    simp only [turns, bring, hdue, List.map_singleton, play]
    exact ⟨_, List.mem_cons_self, rfl, by decide⟩
  obtain ⟨timer, htimer, -, -, hrenewed⟩ :=
    refresh_never_stops.2 hrun rfl rfl hspares hfresh hready (by rw [hon]; decide)
  refine ⟨hrefreshing.1 rfl (by decide), timer, htimer, ?_⟩
  have hdeadline := hrenewed hupdates
  rw [hon] at hdeadline
  exact hdeadline

end Watchface.Simulation
