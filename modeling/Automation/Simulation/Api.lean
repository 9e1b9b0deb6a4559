import Automation.Api.Answer
import Automation.Simulation.Run

/-!
# Serving requests

How a simulation answers requests: the call that a request takes runs in the foreground, then
everything that it scheduled runs to its end.

## Main definitions

* `Simulation.meet` — do what a request asks for.
* `Simulation.serve` — answer a request.
* `Simulation.shutDown` — end the service.
-/

namespace Automation.Simulation

/-- Do what a demand takes. Nothing is given when the call never ends. -/
def meet (demand : Demand) (sim : Simulation) :
    Option (Except Failure ServiceResult) × Simulation :=
  match demand.call? with
  | some call => sim.perform call
  | none =>
    match demand with
    | .clearCache =>
      let (engine, entries) := sim.service.engine.clearCache
      (some (.ok .nothing),
        ({ sim with service := { sim.service with engine } }).report entries)
    | .health | .settings | .record _ | .query .. | .sync _ | .actions _ =>
      (some (.ok .nothing), sim)

/-- Answer a request. -/
def respond (settings : Settings) (request : ApiRequest) (sim : Simulation) :
    Option ApiAnswer × Simulation :=
  match request.demand with
  | .error refusal =>
    let (answer, entries) := request.refused refusal
    (some answer, sim.report entries)
  | .ok demand =>
    match sim.meet demand with
    | (none, sim) => (none, sim)
    | (some outcome, sim) =>
      let (answer, entries) := request.concluded settings demand outcome
      (some answer, sim.report entries)

/-- Wait until nothing is pending. -/
def drain (sim : Simulation) : Simulation := (sim.perform .drain).2

/-- Answer a request and let everything that it scheduled run to its end. -/
def serve (settings : Settings) (request : ApiRequest) (sim : Simulation) :
    Option ApiAnswer × Simulation :=
  let (answer?, sim) := sim.respond settings request
  (answer?.map request.sent, sim.drain)

/-- End the service: what is pending runs to its end, then all clients are closed. -/
def shutDown (sim : Simulation) : Simulation := (sim.drain.perform .dispose).2

end Automation.Simulation
