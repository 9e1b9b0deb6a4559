import Automation.Log
import Automation.Policy.Intent
import Automation.Retry.Basic
import Automation.Sync.Change
import Automation.Sync.Key
import Automation.Tenant.Basic

/-!
# The state of the sync engine

The engine pushes effects to the messaging platform. Several tasks may be under way at once; they
share a pool of clients, one for each tenant, and the record of the messages that were sent. While
a message is being sent, its key is in flight, and every task that meets the key waits for the
send to land.

## Main definitions

* `Engine` — the shared state.
* `EngineTask` — a task at a point where it waits.
* `Request`, `Answer` — what a task waits for, and how the wait ends.
* `Turn` — what a task does until it waits again or is finished.
-/

namespace Automation

/-- A client for the account of a tenant. -/
structure Client where
  number : Nat
  tenantId : String
  account : Credentials
  deriving DecidableEq, Repr, Inhabited

/-- How a send ends for everyone who waits for it. -/
inductive Landing where
  | delivered
  | failed (message : String)
  deriving DecidableEq, Repr

/-- The state that tasks share: the pooled client of each tenant, how many clients have been
created, the keys of messages sent or being sent, the sends under way, by key, the sends of all
times with their landings, and the kinds of actions that have a handler of their own. -/
structure Engine where
  pool : List (String × Client)
  created : Nat
  processed : List String
  inFlight : List (String × Nat)
  flights : List (Option Landing)
  handlers : List ActionKind
  deriving DecidableEq, Repr

/-- What the engine is set up with: the retry options of every outbound call, and the reason why
no client can be made for a tenant, if there is one. -/
structure EngineSetup where
  retry : RetryOptions
  obstacle : Tenant → Option Failure

/-- What the engine is asked to do for a tenant. -/
inductive Job where
  | sync (tenantId : String) (conversation : Json) (plan : ExecutionPlan)
  | actions (tenantId : String) (conversation : Json) (actions : List Action)
  | client (tenantId : String)
  deriving DecidableEq, Repr

/-- The tenant that a job is for. -/
def Job.tenantId : Job → String
  | .sync tenantId _ _ | .actions tenantId _ _ | .client tenantId => tenantId

/-- A sync under way: what is left of its plan, and its result so far. -/
structure Syncing where
  tenantId : String
  conversation : Json
  client : Client
  messages : List (String × Json)
  changes : List Change
  emitEvents : List String
  result : SyncResult
  deriving DecidableEq, Repr

/-- A list of actions under way: what is left of it. -/
structure Acting where
  tenantId : String
  conversation : Json
  client : Client
  actions : List Action
  deriving DecidableEq, Repr

/-- A task at a point where it waits. -/
inductive EngineTask where
  /-- For the configuration of its tenant. -/
  | resolving (job : Job)
  /-- For its own client to be closed, as another task has pooled one meanwhile. -/
  | closingSurplus (job : Job) (client : Client)
  /-- For a message of its own, under way as the flight given. -/
  | sending (sync : Syncing) (key : String) (value : Json) (flight : Nat) (retrying : Retrying)
  /-- For a message that another task is sending. -/
  | awaiting (sync : Syncing) (key : String) (flight : Nat)
  /-- For a change. -/
  | changing (sync : Syncing) (change : Change) (retrying : Retrying)
  /-- For the call of an action. -/
  | acting (acting : Acting) (action : Action) (outbound : Outbound) (retrying : Retrying)
  /-- For the handler of an action. -/
  | handling (acting : Acting) (action : Action) (kind : ActionKind)
  /-- For clients to be closed, one after another. -/
  | closing (current : Client) (rest : List Client)
  deriving DecidableEq, Repr

/-- What a task waits for: a tenant's configuration, the end of a call to the outside or of a pause,
the landing of a send, the database, or the end of policy applications. -/
inductive Request where
  | lookup (tenantId : String)
  | close (client : Client)
  | call (client : Client) (conversation : Json) (call : Platform.Call)
  | deliver (url : String) (payload : Json)
  | handle (client : Client) (conversation : Json) (kind : ActionKind) (action : Action)
  | pause (seconds : Binary64)
  | landing (flight : Nat)
  | storage
  | applications (ids : List Nat)
  deriving DecidableEq, Repr

/-- How a wait ends. -/
inductive Answer where
  | found (tenant : Tenant)
  | done
  | failed (failure : Failure)
  deriving DecidableEq, Repr

/-- What a finished task gives. -/
inductive JobResult where
  | synced (result : SyncResult)
  | acted
  | client (client : Client)
  | disposed
  deriving DecidableEq, Repr

/-- Whether a task waits again or is finished. -/
inductive Progress where
  | waiting (task : EngineTask) (request : Request)
  | finished (result : Except Failure JobResult)

/-- What a task does in one go: the state and the reports it leaves, and where it stands. -/
structure Turn where
  engine : Engine
  entries : List LogEntry
  progress : Progress

namespace Engine

/-- The engine before any task. -/
def initial : Engine := ⟨[], 0, [], [], [], []⟩

/-- The component that reports on tasks. -/
def component : String := "sync_engine"

/-- Whether a message counts as sent, or is being sent. -/
def isProcessed (tenantId : String) (conversation : Json) (key : String) (engine : Engine) :
    Bool :=
  engine.processed.contains (messageKey tenantId conversation key)

/-- Forget all messages that were sent. -/
def clearCache (engine : Engine) : Engine × List LogEntry :=
  ({ engine with processed := [] }, [.info component "Cleared idempotency cache"])

/-- Give a kind of action a handler of its own. -/
def register (kind : ActionKind) (engine : Engine) : Engine :=
  { engine with handlers := engine.handlers.insert kind }

/-- Put a message in flight: its key counts as processed, and the send has a new number. -/
def reserve (messageKey : String) (engine : Engine) : Engine × Nat :=
  ({ engine with
      processed := engine.processed.insert messageKey
      inFlight := (messageKey, engine.flights.length) :: engine.inFlight
      flights := engine.flights ++ [none] },
    engine.flights.length)

/-- Let a send land; one that has failed leaves its key unprocessed. -/
def land (messageKey : String) (flight : Nat) (landing : Landing) (engine : Engine) : Engine :=
  { engine with
    processed := match landing with
      | .delivered => engine.processed
      | .failed _ => engine.processed.filter (· ≠ messageKey)
    inFlight := engine.inFlight.filter fun entry => entry.1 ≠ messageKey
    flights := engine.flights.set flight (some landing) }

/-- How a send has landed, if it has. -/
def landing? (flight : Nat) (engine : Engine) : Option Landing := (engine.flights[flight]?).join

end Engine

end Automation
