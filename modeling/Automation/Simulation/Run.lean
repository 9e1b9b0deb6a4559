import Automation.Simulation.Basic

/-!
# Running a simulation

How a simulation moves on: a task runs until it is set aside or finished, what that sets free
joins the queue, and the queue is worked off from its front.

## Main definitions

* `Simulation.advance` — let a task run as long as its waits end at once.
* `Simulation.settle` — let everything run until every task is set aside or finished.
* `Simulation.perform` — run one call in the foreground.
* `Simulation.cancelTask`, `Simulation.openGate` — what can happen from outside.
-/

namespace Automation.Simulation

/-- The most steps that a simulation follows at a stretch. -/
def stepLimit : Nat := 1000000

/-- Queue the news of a send that has landed for the tasks that wait for it. -/
def relayLandings (sim : Simulation) : Simulation :=
  sim.waiting.foldl (fun sim (id, task, on) =>
    match on with
    | .flight number =>
      if (sim.service.engine.landing? number).isSome then
        { (sim.setState id (.landed task)).enqueue (.relay id) with
          aside := sim.aside.filter (· ≠ id) }
      else sim
    | .gate .. | .applications _ | .database => sim) sim

/-- A task is over; if it is an application in the background, that will be noted. -/
def conclude (id : Nat) (state : TaskState) (sim : Simulation) : Simulation :=
  let sim := sim.setState id state
  match (sim.find? id).bind (·.application?) with
  | some application => sim.enqueue (.noteEnd application)
  | none => sim

/-- Take over what a turn leaves: state, reports, and the applications it schedules. -/
def absorb (turn : ServiceTurn) (sim : Simulation) : Simulation :=
  let sim := ({ sim with service := turn.service }).report turn.entries
  let sim := sim.relayLandings
  turn.scheduled.foldl (fun sim (application, event) =>
    (sim.spawn (.background application event)).2) sim

/-- Let a task that has had a turn run on as long as its waits end at once. -/
def advance (id : Nat) : Nat → ServiceTurn → Simulation → Simulation
  | 0, _, sim => sim
  | fuel + 1, turn, sim =>
    let sim := sim.absorb turn
    match turn.progress with
    | .finished result => sim.conclude id (.finished result)
    | .waiting task request =>
      match sim.answerNow request with
      | (.answer answer, sim) =>
        advance id fuel (sim.service.resume sim.setup task answer) sim
      | (.block on, sim) => sim.setAside id task on
      | (.yield, sim) => (sim.setState id (.yielded task request)).enqueue (.run id)

/-- Let a task go on with an answer. -/
def goOn (id : Nat) (task : ServiceTask) (answer : Answer) (sim : Simulation) : Simulation :=
  sim.advance id stepLimit (sim.service.resume sim.setup task answer)

/-- Cancel a task that stands at a wait. -/
def drop (id : Nat) (task : ServiceTask) (sim : Simulation) : Simulation :=
  let sim := { sim with
    service := sim.service.cancel task
    aside := sim.aside.filter (· ≠ id) }
  sim.relayLandings.conclude id .cancelled

/-- Let a task run that is not condemned. -/
def runTask (id : Nat) (state : TaskState) (sim : Simulation) : Simulation :=
  match state with
  | .created call => sim.advance id stepLimit (sim.service.start sim.setup call)
  | .ready task answer => sim.goOn id task answer
  | .yielded task request =>
    match ({ sim with slowLookups := false }).answerNow request with
    | (.answer answer, _) => sim.goOn id task answer
    | (.block on, _) => sim.setAside id task on
    | (.yield, _) => sim
  | .opened task next =>
    match outcomeAnswer sim.openGates next with
    | .inl answer => sim.goOn id task answer
    | .inr (gate, later) => sim.setAside id task (.gate gate later)
  | .blocked .. | .landed _ | .finished _ | .cancelled => sim

/-- Let a condemned task run: it is cancelled where it stands. -/
def endTask (id : Nat) (state : TaskState) (sim : Simulation) : Simulation :=
  match state with
  | .created _ => sim.conclude id .cancelled
  | .blocked task _ | .landed task | .ready task _ | .yielded task _ | .opened task _ =>
    sim.drop id task
  | .finished _ | .cancelled => sim

/-- The tasks that wait for an application learn that it is over. -/
def noteApplication (application : Nat) (sim : Simulation) : Simulation :=
  let sim := { sim with service := sim.service.noteEnd application }
  sim.waiting.foldl (fun sim (id, task, on) =>
    match on with
    | .applications left =>
      let left := left.filter (· ≠ application)
      if left.isEmpty then sim.takeBack id (.ready task .done)
      else sim.setState id (.blocked task (.applications left))
    | .gate .. | .flight _ | .database => sim) sim

/-- Do the first thing in the queue. -/
def step (wake : Wake) (sim : Simulation) : Simulation :=
  match wake with
  | .run id =>
    match sim.find? id with
    | some entry =>
      if entry.condemned then sim.endTask id entry.state else sim.runTask id entry.state
    | none => sim
  | .relay id =>
    match sim.find? id with
    | some ⟨_, .landed task, false, _⟩ => (sim.setState id (.ready task .done)).enqueue (.run id)
    | _ => sim
  | .noteEnd application => sim.noteApplication application

/-- Let the database answer the first task that waits for it. -/
def answerDatabase (sim : Simulation) : Option Simulation :=
  sim.waiting.findSome? fun (id, task, on) =>
    match on with
    | .database => some (sim.takeBack id (.ready task .done))
    | .gate .. | .flight _ | .applications _ => none

/-- Move on by one step, if there is anything to do: the queue comes first, then the database. -/
def next? (sim : Simulation) : Option Simulation :=
  match sim.queue with
  | wake :: rest => some (({ sim with queue := rest }).step wake)
  | [] => sim.answerDatabase

/-- Whether a task is over. -/
def isOver (id : Nat) (sim : Simulation) : Bool :=
  match sim.stateOf? id with
  | some (.finished _) | some .cancelled | none => true
  | some (.created _) | some (.blocked ..) | some (.landed _) | some (.ready ..)
  | some (.yielded ..) | some (.opened ..) => false

/-- Move on until a condition holds or nothing is left to do, for a number of steps. -/
def runUntil (stop : Simulation → Bool) : Nat → Simulation → Simulation
  | 0, sim => sim
  | fuel + 1, sim =>
    if stop sim then sim
    else
      match sim.next? with
      | some sim => runUntil stop fuel sim
      | none => sim

/-- Let everything run until every task is set aside or finished. -/
def settle (sim : Simulation) : Simulation := sim.runUntil (fun _ => false) stepLimit

/-- Run a call in the foreground, other tasks only while it waits: its result, if it ends. -/
def perform (call : ServiceCall) (sim : Simulation) :
    Option (Except Failure ServiceResult) × Simulation :=
  let (id, sim) := sim.create call
  let sim := sim.advance id stepLimit (sim.service.start sim.setup call)
  let sim := sim.runUntil (·.isOver id) stepLimit
  match sim.stateOf? id with
  | some (.finished result) => (some result, sim)
  | _ => (none, sim)

/-- Condemn a task, unless it is over. One that is set aside will run for it. -/
def cancelTask (id : Nat) (sim : Simulation) : Simulation :=
  match sim.find? id with
  | none => sim
  | some entry =>
    if entry.condemned then sim
    else
      let condemned := sim.modify id fun entry => { entry with condemned := true }
      match entry.state with
      | .blocked .. | .landed _ =>
        { condemned.enqueue (.run id) with aside := sim.aside.filter (· ≠ id) }
      | .created _ | .ready .. | .yielded .. | .opened .. => condemned
      | .finished _ | .cancelled => sim

/-- Open a gate: the tasks that wait at it go on. -/
def openGate (gate : String) (sim : Simulation) : Simulation :=
  let opened := { sim with openGates := sim.openGates.insert gate }
  opened.waiting.foldl (fun sim (id, task, on) =>
    match on with
    | .gate name next => if name = gate then sim.takeBack id (.opened task next) else sim
    | .flight _ | .applications _ | .database => sim) opened

end Automation.Simulation
