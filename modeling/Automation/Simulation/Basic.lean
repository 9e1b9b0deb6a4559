import Automation.Simulation.Script

/-!
# Simulations of the service

A deterministic simulation of the service: its tasks run one at a time, in the order in which they
became ready, against a scripted outside. A task keeps running as long as its waits end at once;
otherwise it is set aside until a gate opens, a send lands, the database answers or the policy
applications it waits for are over.

## Main definitions

* `TaskState` — where a task of the simulation stands.
* `Wake` — an entry in the queue of what happens next.
* `Simulation` — the state of a simulation.
* `Simulation.answerNow` — the waits that end at once.
-/

namespace Automation

namespace Simulation

/-- What a task that has been set aside waits for. -/
inductive Blocker where
  | gate (name : String) (next : Outcome)
  | flight (number : Nat)
  | applications (left : List Nat)
  | database
  deriving DecidableEq, Repr

/-- Where a task stands. -/
inductive TaskState where
  /-- It has not run yet. -/
  | created (call : ServiceCall)
  /-- It is set aside. -/
  | blocked (task : ServiceTask) (on : Blocker)
  /-- The send that it waits for has landed, which it is about to learn. -/
  | landed (task : ServiceTask)
  /-- Its wait is over, and it will go on with the answer. -/
  | ready (task : ServiceTask) (answer : Answer)
  /-- It will go on with what the request gives by then. -/
  | yielded (task : ServiceTask) (request : Request)
  /-- It will go on as the outcome of its call says. -/
  | opened (task : ServiceTask) (next : Outcome)
  | finished (result : Except Failure ServiceResult)
  | cancelled

/-- What happens next. -/
inductive Wake where
  /-- A task runs. -/
  | run (id : Nat)
  /-- A task learns that the send it waits for has landed, and will run. -/
  | relay (id : Nat)
  /-- The end of an application in the background is noted. -/
  | noteEnd (application : Nat)
  deriving DecidableEq, Repr

/-- A task of the simulation. -/
structure TaskEntry where
  id : Nat
  state : TaskState
  /-- Whether it is to be cancelled as soon as it runs. -/
  condemned : Bool
  /-- The application that it is, if it runs in the background. -/
  application? : Option Nat

end Simulation

open Simulation

/-- The state of a simulation. -/
structure Simulation where
  setup : ServiceSetup
  service : Service
  /-- Whether calls of the platform go out as HTTP requests. -/
  overHttp : Bool
  /-- Whether the lookup of a tenant lets other tasks run first. -/
  slowLookups : Bool
  script : Script
  openGates : List String
  /-- The messages with which the handlers of actions fail, if they do. -/
  handlerFaults : List (ActionKind × Option String)
  tasks : List TaskEntry
  /-- The tasks that are set aside, in the order in which that happened. -/
  aside : List Nat
  queue : List Wake
  contacts : List Contact
  pauses : List Binary64
  entries : List LogEntry

namespace Simulation

/-- The entry of a task. -/
def find? (id : Nat) (sim : Simulation) : Option TaskEntry := sim.tasks.find? (·.id = id)

/-- Where a task stands. -/
def stateOf? (id : Nat) (sim : Simulation) : Option TaskState :=
  (sim.find? id).map TaskEntry.state

/-- Change the entry of a task. -/
def modify (id : Nat) (change : TaskEntry → TaskEntry) (sim : Simulation) : Simulation :=
  { sim with tasks := sim.tasks.map fun entry => if entry.id = id then change entry else entry }

/-- Put a task into a state. -/
def setState (id : Nat) (state : TaskState) (sim : Simulation) : Simulation :=
  sim.modify id fun entry => { entry with state }

/-- Put something at the end of the queue. -/
def enqueue (wake : Wake) (sim : Simulation) : Simulation :=
  { sim with queue := sim.queue ++ [wake] }

/-- Report. -/
def report (entries : List LogEntry) (sim : Simulation) : Simulation :=
  { sim with entries := sim.entries ++ entries }

/-- Record a contact. -/
def contact (contact : Contact) (sim : Simulation) : Simulation :=
  { sim with contacts := sim.contacts ++ [contact] }

/-- A new task for a call, which is not in the queue yet. -/
def create (call : ServiceCall) (sim : Simulation) : Nat × Simulation :=
  let application? := match call with
    | .background id _ => some id
    | _ => none
  let id := sim.tasks.length
  (id, { sim with tasks := sim.tasks ++ [⟨id, .created call, false, application?⟩] })

/-- A new task for a call, which runs when its turn comes. -/
def spawn (call : ServiceCall) (sim : Simulation) : Nat × Simulation :=
  let (id, sim) := sim.create call
  (id, sim.enqueue (.run id))

/-- Set a task aside. -/
def setAside (id : Nat) (task : ServiceTask) (on : Blocker) (sim : Simulation) : Simulation :=
  { sim.setState id (.blocked task on) with aside := sim.aside ++ [id] }

/-- The tasks that are set aside and not condemned, with what they wait for. -/
def waiting (sim : Simulation) : List (Nat × ServiceTask × Blocker) :=
  sim.aside.filterMap fun id =>
    match sim.find? id with
    | some ⟨_, .blocked task on, false, _⟩ => some (id, task, on)
    | _ => none

/-- Take a task back that was set aside: it will run in the state given. -/
def takeBack (id : Nat) (state : TaskState) (sim : Simulation) : Simulation :=
  { (sim.setState id state).enqueue (.run id) with aside := sim.aside.filter (· ≠ id) }

/-- The answer to a call of the platform that has ended, or the gate at which it is held up. -/
def outcomeAnswer (openGates : List String) : Outcome → Answer ⊕ (String × Outcome)
  | .succeeds => .inl .done
  | .fails message => .inl (.failed (.external message))
  | .rejects message status? => .inl (.failed (.platform ⟨message, status?, []⟩))
  | .waits gate next =>
    if openGates.contains gate then outcomeAnswer openGates next else .inr (gate, next)

/-- What a wait comes to at once: an answer, or what the task is set aside for. -/
inductive Immediate where
  | answer (answer : Answer)
  | block (on : Blocker)
  | yield

/-- The answer of a result. -/
def resultAnswer {α : Type} : Except Failure α → Answer
  | .ok _ => .done
  | .error failure => .failed failure

/-- Send the request of a platform call and judge what comes back. -/
def exchangeCall (client : Client) (conversation : Json) (call : Platform.Call)
    (sim : Simulation) : Answer × Simulation :=
  let prepared := do
    let account ← Platform.Account.ofCredentials client.account
    call.request account conversation
  match prepared with
  | .error failure => (.failed failure, sim)
  | .ok (request, path) =>
    let (exchange, script) := sim.script.takeExchange .platform
    let (result, entries) := call.conclude conversation request path exchange
    (resultAnswer result,
      (({ sim with script }).contact (.sent .platform request)).report entries)

/-- Send the request of a webhook and judge what comes back. -/
def exchangeWebhook (url : String) (payload : Json) (sim : Simulation) : Answer × Simulation :=
  match Webhook.request url payload with
  | .error failure => (.failed failure, sim)
  | .ok request =>
    let (exchange, script) := sim.script.takeExchange .webhook
    let (result, entries) := Webhook.conclude url request exchange
    (resultAnswer result, (({ sim with script }).contact (.sent .webhook request)).report entries)

/-- What a request comes to at once. -/
def answerNow (sim : Simulation) : Request → Immediate × Simulation
  | .lookup tenantId =>
    if sim.slowLookups then (.yield, sim) else (.answer (sim.service.lookup tenantId), sim)
  | .close client =>
    (.answer .done, if sim.overHttp then sim else sim.contact (.closed client))
  | .call client conversation call =>
    if sim.overHttp then
      let (answer, sim) := sim.exchangeCall client conversation call
      (.answer answer, sim)
    else
      let (outcome, script) := sim.script.takeOutcome (callName call)
      let sim := ({ sim with script }).contact (.called client conversation call)
      match outcomeAnswer sim.openGates outcome with
      | .inl answer => (.answer answer, sim)
      | .inr (gate, next) => (.block (.gate gate next), sim)
  | .deliver url payload =>
    let (answer, sim) := sim.exchangeWebhook url payload
    (.answer answer, sim)
  | .handle client conversation kind action =>
    let sim := sim.contact (.handled kind client conversation action)
    match (sim.handlerFaults.lookup kind).join with
    | some message => (.answer (.failed (.external message)), sim)
    | none => (.answer .done, sim)
  | .pause seconds => (.answer .done, { sim with pauses := sim.pauses ++ [seconds] })
  | .landing flight =>
    if (sim.service.engine.landing? flight).isSome then (.answer .done, sim)
    else (.block (.flight flight), sim)
  | .storage => (.block .database, sim)
  | .applications ids => (.block (.applications ids), sim)

end Simulation

end Automation
