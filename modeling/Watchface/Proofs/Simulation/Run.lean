import Watchface.Proofs.Face.Timing
import Watchface.Proofs.Host.Simulator
import Watchface.Simulation

/-!
# Runs of a simulation

A step of a simulation brings inputs to the face, one after another.  Played
on the watch, they give the turns of the step.
-/

namespace Watchface.Simulation

open Face (Synchronized)

def respond (simulation : Simulation) (input : Face.Input) : List Exchange × Simulation :=
  hold (simulation.face.react input) simulation.watch

def play (simulation : Simulation) : List Face.Input → List Face.Turn × Simulation
  | [] => ([], simulation)
  | input :: inputs =>
      let (log, next) := simulation.respond input
      let (turns, last) := next.play inputs
      (⟨simulation.face, input, log, next.face⟩ :: turns, last)

def bring (simulation : Simulation) : Step → List Face.Input × Simulation
  | .input input => ([input], simulation)
  | .advance milliseconds =>
      let (due, watch) := simulation.watch.advance milliseconds
      (due.map fun timer => .event (.timer timer.purpose timer.handle),
        { simulation with watch := watch })
  | .disturb disturbance =>
      ([], { simulation with watch := simulation.watch.disturb disturbance })

def turns (simulation : Simulation) (step : Step) : List Face.Turn :=
  ((simulation.bring step).2.play (simulation.bring step).1).1

theorem hold_dispatchAll (simulation : Simulation) (events : List Event) :
    hold (simulation.face.dispatchAll events) simulation.watch =
      let (turns, last) := simulation.play (events.map .event)
      (turns.flatMap Face.Turn.log, last) := by
  induction events generalizing simulation with
  | nil => rfl
  | cons event events ih =>
      have hrest := ih (simulation.respond (.event event)).2
      simp only [respond, hold, Face.react, Prod.mk.injEq] at hrest
      simp only [respond, hold, Face.dispatchAll, Dialogue.run_bind, List.map_cons, play,
        Face.react, List.flatMap_cons, hrest]

theorem step_eq_play (simulation : Simulation) (step : Step) :
    simulation.step step = ((simulation.turns step).flatMap Face.Turn.log,
      ((simulation.bring step).2.play (simulation.bring step).1).2) := by
  cases step with
  | input input => simp [step, turns, bring, play, respond]
  | advance milliseconds =>
      have hheld := hold_dispatchAll ⟨simulation.face, (simulation.watch.advance milliseconds).2⟩
        ((simulation.watch.advance milliseconds).1.map fun timer =>
          .timer timer.purpose timer.handle)
      rw [List.map_map] at hheld
      exact hheld
  | disturb disturbance => rfl

variable {platform : Platform} {epoch : UInt32} {faults : Service → Option ServiceError}
  {steps : List Step} {log : List Exchange} {simulation : Simulation} {issued : List Handle}

/-- The runs of a face that is new or has been started on a new watch, with all exchanges. -/
inductive Run (platform : Platform) (epoch : UInt32) (faults : Service → Option ServiceError) :
    List Step → List Exchange → Simulation → Prop
  | fresh :
      Run platform epoch faults [] [] ⟨Face.ofPlatform platform, Simulator.initial epoch faults⟩
  | started :
      Run platform epoch faults [] (start platform (Simulator.initial epoch faults)).1
        (start platform (Simulator.initial epoch faults)).2
  | step {steps : List Step} {log : List Exchange} {simulation : Simulation} {step : Step}
      (run : Run platform epoch faults steps log simulation) :
      Run platform epoch faults (steps ++ [step]) (log ++ (simulation.step step).1)
        (simulation.step step).2

def expiry? : Face.Input → Option Expiry
  | .event (.timer purpose handle) => some ⟨purpose, handle⟩
  | _ => none

def expiries (inputs : List Face.Input) : List Expiry := inputs.filterMap expiry?

theorem expiry?_eq_none_iff {input : Face.Input} :
    expiry? input = none ↔ input.isTimer = false := by
  rcases input with (_ | connected | payload | ⟨purpose, handle⟩) | force <;>
    simp [expiry?, Face.Input.isTimer, Event.isTimer]

theorem expiries_untimed {input : Face.Input} (untimed : input.isTimer = false) :
    expiries [input] = [] := by
  simp [expiries, expiry?_eq_none_iff.mpr untimed]

theorem eq_timer_of_expiry? {input : Face.Input} {expiry : Expiry}
    (h : expiry? input = some expiry) :
    input = .event (.timer expiry.purpose expiry.handle) := by
  rcases input with (_ | connected | payload | ⟨purpose, handle⟩) | force <;>
    simp only [expiry?, Option.some.injEq, reduceCtorEq] at h
  rw [← h]

variable {input : Face.Input} {inputs : List Face.Input}

theorem reacts_respond (simulation : Simulation) (input : Face.Input) :
    simulation.face.Reacts input (simulation.respond input).1 (simulation.respond input).2.face :=
  Face.reacts_of_trace
    (Dialogue.trace_run Simulator.host (simulation.face.react input) simulation.watch)

theorem replies_respond
    (honest : Simulator.HonestIn (simulation.face.react input) simulation.watch)
    (synchronized : Synchronized (simulation.watch.service (expiries (input :: inputs)) issued)
      simulation.face)
    (fresh : (issuedAfter (simulation.respond input).1 issued).Nodup) :
    TimerService.Replies (simulation.watch.service (expiries inputs) issued)
      (simulation.respond input).1
      ((simulation.respond input).2.watch.service (expiries inputs)
        (issuedAfter (simulation.respond input).1 issued)) := by
  have hnumbered : (simulation.watch.service (expiries inputs) issued).Numbered :=
    ⟨synchronized.tracks.live_issued, synchronized.tracks.nodup⟩
  exact Simulator.replies_run (simulation.face.react input) hnumbered honest fresh

theorem synchronized_respond
    (honest : Simulator.HonestIn (simulation.face.react input) simulation.watch)
    (synchronized : Synchronized (simulation.watch.service (expiries (input :: inputs)) issued)
      simulation.face)
    (fresh : (issuedAfter (simulation.respond input).1 issued).Nodup) :
    Synchronized ((simulation.respond input).2.watch.service (expiries inputs)
      (issuedAfter (simulation.respond input).1 issued)) (simulation.respond input).2.face ∧
    simulation.face.Times input (simulation.respond input).1 (simulation.respond input).2.face
      (simulation.watch.service (expiries inputs) issued)
      ((simulation.respond input).2.watch.service (expiries inputs)
        (issuedAfter (simulation.respond input).1 issued)) := by
  have hreacts := simulation.reacts_respond input
  have hreplies := replies_respond honest synchronized fresh
  cases hexpiry : expiry? input with
  | none =>
      have huntimed := expiry?_eq_none_iff.mp hexpiry
      rw [expiries, List.filterMap_cons_none hexpiry] at synchronized
      exact ⟨synchronized.reacts huntimed hreacts hreplies.serves,
        synchronized.times huntimed hreacts hreplies⟩
  | some expiry =>
      rw [expiries, List.filterMap_cons_some hexpiry] at synchronized
      obtain rfl := eq_timer_of_expiry? hexpiry
      have hundelivered : (simulation.watch.service
          (expiry :: List.filterMap expiry? inputs) issued).undelivered =
            [] ++ expiry :: expiries inputs := rfl
      exact ⟨synchronized.delivers hundelivered hreacts hreplies.serves,
        synchronized.times_delivered hundelivered hreacts hreplies⟩

theorem expiries_due (simulation : Simulation) (milliseconds : Nat) :
    expiries (simulation.bring (.advance milliseconds)).1 =
      (simulation.watch.advance milliseconds).1.map Simulator.Timer.expiry := by
  rw [bring, expiries, List.filterMap_map, ← List.filterMap_eq_map]
  rfl

/-! ## Turns of the face -/

theorem face_bring (simulation : Simulation) (step : Step) :
    (simulation.bring step).2.face = simulation.face := by
  cases step <;> rfl

variable {opening : List Exchange} {turns : List Face.Turn}

theorem run_play (run : Face.Run platform opening turns simulation.face)
    (inputs : List Face.Input) :
    Face.Run platform opening (turns ++ (simulation.play inputs).1)
      (simulation.play inputs).2.face := by
  induction inputs generalizing simulation turns with
  | nil => rwa [play, List.append_nil]
  | cons input inputs ih =>
      have hnext : Face.Run platform opening _ (simulation.respond input).2.face :=
        .turn run (Dialogue.trace_run Simulator.host (simulation.face.react input)
          simulation.watch)
      have hrest := ih hnext
      rwa [List.append_assoc] at hrest

theorem run_step (run : Face.Run platform opening turns simulation.face) (step : Step) :
    Face.Run platform opening (turns ++ simulation.turns step)
      (simulation.step step).2.face := by
  rw [step_eq_play]
  rw [← face_bring simulation step] at run
  exact run_play run _

end Watchface.Simulation
