import Automation.Pipeline

/-!
# The service

The whole service: the tenants it knows, the sync engine, the event pipeline and the event store.
Everything that is asked of it is a task, which waits for one thing at a time. In between, tasks
run alone, so a run of the service is a sequence of their turns in any order.

## Main definitions

* `Service`, `ServiceSetup` — the state that tasks share, and what it is set up with.
* `ServiceCall` — what can be asked of the service.
* `Service.start`, `Service.resume`, `Service.cancel` — the turns of its tasks.
-/

namespace Automation

/-- What the service is set up with: the engine, unless it has none to dispatch actions with, how
many failures are kept, and the present time. -/
structure ServiceSetup where
  engine : EngineSetup
  dispatches : Bool
  maxFailures? : Option Nat
  now : Timestamp

/-- The state that tasks share. -/
structure Service where
  tenants : List (String × Tenant)
  engine : Engine
  pipeline : Pipeline
  store : EventStore
  deriving DecidableEq, Repr

/-- What can be asked of the service. -/
inductive ServiceCall where
  | job (job : Job)
  | dispose
  | find (tenantId : String)
  | apply (event : Event)
  | record (draft : EventDraft)
  | query (tenantId : String) (filter? : Option EventFilter)
  | drain
  /-- Apply the policies to a recorded event, as the application of the number given. -/
  | background (id : Nat) (event : Event)
  deriving DecidableEq, Repr

/-- A task at a point where it waits. -/
inductive ServiceTask where
  | engine (task : EngineTask)
  | finding (tenantId : String)
  | applying (application : Application)
  | background (id : Nat) (event : Event) (application : Application)
  | recording (draft : EventDraft)
  | querying (tenantId : String) (filter : EventFilter)
  | draining
  deriving DecidableEq, Repr

/-- What a finished task gives. -/
inductive ServiceResult where
  | job (result : JobResult)
  | tenant (tenant : Tenant)
  | actions (actions : List Action)
  | event (event : Event)
  | events (events : List Event)
  | nothing
  deriving DecidableEq, Repr

/-- Whether a task waits again or is finished. -/
inductive ServiceProgress where
  | waiting (task : ServiceTask) (request : Request)
  | finished (result : Except Failure ServiceResult)

/-- What a task does in one go: the state and the reports it leaves, the applications it
schedules, and where it stands. -/
structure ServiceTurn where
  service : Service
  entries : List LogEntry
  scheduled : List (Nat × Event)
  progress : ServiceProgress

namespace Service

/-- The service for tenants and an empty store, before any task. -/
def initial (tenants : List (String × Tenant)) (backend : StoreBackend) : Service :=
  ⟨tenants, .initial, .initial, .empty backend⟩

/-- What the lookup of a tenant answers. -/
def lookup (tenantId : String) (service : Service) : Answer :=
  match service.tenants.lookup tenantId with
  | some tenant => .found tenant
  | none => .failed (.unknownTenant tenantId)

/-- Tenants with one more configuration, in the place of the one that has its id. -/
def putTenant (tenant : Tenant) : List (String × Tenant) → List (String × Tenant)
  | [] => [(tenant.id, tenant)]
  | (id, known) :: rest =>
    if id = tenant.id then (id, tenant) :: rest else (id, known) :: putTenant tenant rest

/-- Configure a tenant. -/
def setTenant (tenant : Tenant) (service : Service) : Service × List LogEntry :=
  ({ service with tenants := putTenant tenant service.tenants },
    [.info "tenant_config"
      s!"Tenant configured: tenant_id={tenant.id} policies={tenant.policies.length}"])

/-- The turn of a task that waits. -/
def wait (service : Service) (task : ServiceTask) (request : Request) : ServiceTurn :=
  ⟨service, [], [], .waiting task request⟩

/-- The turn of a task that is finished. -/
def finish (service : Service) (result : Except Failure ServiceResult) : ServiceTurn :=
  ⟨service, [], [], .finished result⟩

/-- The turn of the engine as a turn of the service. -/
def ofEngineTurn (service : Service) (turn : Turn) : ServiceTurn :=
  ⟨{ service with engine := turn.engine }, turn.entries, [],
    match turn.progress with
    | .waiting task request => .waiting (.engine task) request
    | .finished result => .finished (result.map .job)⟩

/-- The turn of an application that a caller waits for. -/
def ofApplicationTurn (service : Service) (turn : ApplicationTurn) : ServiceTurn :=
  ⟨{ service with engine := turn.engine }, turn.entries, [],
    match turn.progress with
    | .waiting application request => .waiting (.applying application) request
    | .finished result => .finished (result.map .actions)⟩

/-- The turn of an application in the background: its failure is kept. -/
def ofBackgroundTurn (setup : ServiceSetup) (service : Service) (id : Nat) (event : Event)
    (turn : ApplicationTurn) : ServiceTurn :=
  let service := { service with engine := turn.engine }
  match turn.progress with
  | .waiting application request =>
    ⟨service, turn.entries, [], .waiting (.background id event application) request⟩
  | .finished (.ok _) => ⟨service, turn.entries, [], .finished (.ok .nothing)⟩
  | .finished (.error failure) =>
    let (pipeline, entries) := service.pipeline.fail setup.maxFailures? event failure
    ⟨{ service with pipeline }, turn.entries ++ entries, [], .finished (.ok .nothing)⟩

/-- Record a draft, and schedule an application for the event. -/
def record (setup : ServiceSetup) (service : Service) (draft : EventDraft) : ServiceTurn :=
  let (result, store) := service.store.append setup.now draft
  let service := { service with store }
  match result with
  | .error failure => service.finish (.error failure)
  | .ok event =>
    let (id, pipeline) := service.pipeline.schedule
    ⟨{ service with pipeline }, [], [(id, event)], .finished (.ok (.event event))⟩

/-- Read the events of a tenant. -/
def read (service : Service) (tenantId : String) (filter : EventFilter) : ServiceTurn :=
  service.finish ((service.store.query tenantId filter).map .events)

/-- Whether an operation of the store has to wait. -/
def storeWaits (service : Service) : Bool :=
  match service.store with
  | .memory _ => false
  | .database .. => true

/-- Wait for the applications that are pending, until there are none. -/
def drain (service : Service) : ServiceTurn :=
  if service.pipeline.pending.isEmpty then service.finish (.ok .nothing)
  else service.wait .draining (.applications service.pipeline.pending)

/-- The engine that dispatches actions, if there is one. -/
def dispatcher? (setup : ServiceSetup) : Option EngineSetup :=
  if setup.dispatches then some setup.engine else none

/-- The first turn of a call. -/
def start (setup : ServiceSetup) (service : Service) : ServiceCall → ServiceTurn
  | .job job => service.ofEngineTurn (service.engine.start setup.engine job)
  | .dispose => service.ofEngineTurn service.engine.dispose
  | .find tenantId => service.wait (.finding tenantId) (.lookup tenantId)
  | .apply event => service.ofApplicationTurn (Application.start service.engine event)
  | .record draft =>
    let turn := if service.storeWaits then service.wait (.recording draft) .storage
      else record setup service draft
    { turn with entries := Pipeline.loggingEntry draft :: turn.entries }
  | .query tenantId filter? =>
    let filter := filter?.getD .everything
    let turn := if service.storeWaits then service.wait (.querying tenantId filter) .storage
      else service.read tenantId filter
    { turn with entries := Pipeline.queryingEntry tenantId filter? :: turn.entries }
  | .drain => service.drain
  | .background id event =>
    service.ofBackgroundTurn setup id event (Application.start service.engine event)

/-- The turn of a task after its wait has ended. -/
def resume (setup : ServiceSetup) (service : Service) (task : ServiceTask) (answer : Answer) :
    ServiceTurn :=
  match task with
  | .engine task => service.ofEngineTurn (service.engine.resume setup.engine task answer)
  | .finding tenantId =>
    match answer with
    | .found tenant => service.finish (.ok (.tenant tenant))
    | .failed failure => service.finish (.error failure)
    | .done => service.wait task (.lookup tenantId)
  | .applying application =>
    service.ofApplicationTurn (application.resume (dispatcher? setup) service.engine answer)
  | .background id event application =>
    service.ofBackgroundTurn setup id event
      (application.resume (dispatcher? setup) service.engine answer)
  | .recording draft => record setup service draft
  | .querying tenantId filter => service.read tenantId filter
  | .draining => service.drain

/-- The state that a cancelled task leaves. -/
def cancel (service : Service) : ServiceTask → Service
  | .engine task => { service with engine := service.engine.cancel task }
  | .applying application | .background _ _ application =>
    { service with engine := application.cancel service.engine }
  | .finding _ | .recording _ | .querying .. | .draining => service

/-- Note that an application in the background is over. -/
def noteEnd (id : Nat) (service : Service) : Service :=
  { service with pipeline := service.pipeline.noteEnd id }

end Service

end Automation
