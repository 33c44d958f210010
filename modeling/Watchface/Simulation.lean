import Watchface.Face
import Watchface.Simulator

/-!
A face that runs on a simulated watch, step by step.
-/

namespace Watchface

structure Simulation where
  face : Face
  watch : Simulator

namespace Simulation

inductive Step where
  | input (input : Face.Input)
  /-- Let time pass and deliver every timer that is due. -/
  | advance (milliseconds : Nat)
  | disturb (disturbance : Simulator.Disturbance)
  deriving DecidableEq, Repr

def hold (dialogue : Dialogue Face) (watch : Simulator) : List Exchange × Simulation :=
  let outcome := dialogue.run Simulator.host watch
  (outcome.log, ⟨outcome.value, outcome.state⟩)

def start (platform : Platform) (watch : Simulator) : List Exchange × Simulation :=
  hold (Face.start platform) watch

def step (simulation : Simulation) : Step → List Exchange × Simulation
  | .input input => hold (simulation.face.react input) simulation.watch
  | .advance milliseconds =>
      let (due, watch) := simulation.watch.advance milliseconds
      let events := due.map fun timer => Event.timer timer.purpose timer.handle
      hold (simulation.face.dispatchAll events) watch
  | .disturb disturbance =>
      ([], { simulation with watch := simulation.watch.disturb disturbance })

end Simulation

end Watchface
