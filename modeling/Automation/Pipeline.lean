import Automation.Event.Store
import Automation.Policy.Matcher
import Automation.Sync.Engine.Turn

/-!
# The event pipeline

Events are recorded first; the policies of their tenant are applied afterwards, in applications of
their own. What goes wrong in an application never reaches the producer of the event: it is
reported and kept among the failures, of which only the latest are kept.

## Main definitions

* `PolicyFailure`, `Pipeline` — the failures, and the applications not yet known to be over.
* `Application` — an application at a point where it waits.
* `ApplicationTurn` — what an application does between its waits.
-/

namespace Automation

/-- An application of policies that failed. -/
structure PolicyFailure where
  eventId : Identifier
  tenantId : String
  message : String
  code : ErrorCode
  deriving DecidableEq, Repr

/-- The failures kept, the applications scheduled and not yet known to be over, and how many have
been scheduled. -/
structure Pipeline where
  failures : List PolicyFailure
  pending : List Nat
  scheduled : Nat
  deriving DecidableEq, Repr

namespace Pipeline

/-- The pipeline before any event. -/
def initial : Pipeline := ⟨[], [], 0⟩

/-- The component that reports on events. -/
def component : String := "event_pipeline"

/-- Schedule an application: its number, and the pipeline afterwards. -/
def schedule (pipeline : Pipeline) : Nat × Pipeline :=
  (pipeline.scheduled,
    { pipeline with
      pending := pipeline.pending ++ [pipeline.scheduled]
      scheduled := pipeline.scheduled + 1 })

/-- Note that an application is over. -/
def noteEnd (id : Nat) (pipeline : Pipeline) : Pipeline :=
  { pipeline with pending := pipeline.pending.filter (· ≠ id) }

/-- The latest elements of a list, at most as many as a limit says. -/
def latest {α : Type} (limit? : Option Nat) (elements : List α) : List α :=
  match limit? with
  | some limit => elements.drop (elements.length - limit)
  | none => elements

/-- The record of a failed application. -/
def failureOf (event : Event) (failure : Failure) : PolicyFailure :=
  ⟨event.id, event.tenantId, failure.message, failure.code?.getD .policyExecution⟩

/-- The report on a failed application. -/
def failureEntry (failed : PolicyFailure) : LogEntry :=
  .error component
    (s!"Policy execution failed: event_id={failed.eventId.toText} " ++
      s!"tenant_id={failed.tenantId} code={failed.code.name} error={failed.message}")

/-- Keep the failure of an application, and report on it. -/
def fail (limit? : Option Nat) (event : Event) (failure : Failure) (pipeline : Pipeline) :
    Pipeline × List LogEntry :=
  let failed := failureOf event failure
  ({ pipeline with failures := latest limit? (pipeline.failures ++ [failed]) },
    [failureEntry failed])

/-- The report on an event that is to be recorded. -/
def loggingEntry (draft : EventDraft) : LogEntry :=
  .info component (s!"Logging event: tenant_id={draft.tenantId} " ++
    s!"subject_id={draft.subjectId.toText} type={draft.type}")

/-- The report on events that are asked for. -/
def queryingEntry (tenantId : String) (filter? : Option EventFilter) : LogEntry :=
  let filters := EventFilter.displayPart EventFilter.display filter?
  .info component s!"Querying events: tenant_id={tenantId} filters={filters}"

end Pipeline

/-- An application of policies to an event, at a point where it waits: for the configuration of
the tenant, or in the actions that the policies ask for. -/
inductive Application where
  | lookingUp (event : Event)
  | dispatching (event : Event) (actions : List Action) (task : EngineTask)
  deriving DecidableEq, Repr

/-- Whether an application waits again or is finished; it gives the actions that were asked for. -/
inductive ApplicationProgress where
  | waiting (application : Application) (request : Request)
  | finished (result : Except Failure (List Action))

/-- What an application does in one go. -/
structure ApplicationTurn where
  engine : Engine
  entries : List LogEntry
  progress : ApplicationProgress

namespace Application

/-- The turn of an application whose actions have had a turn. -/
def dispatched (event : Event) (actions : List Action) (turn : Turn) : ApplicationTurn :=
  ⟨turn.engine, turn.entries,
    match turn.progress with
    | .waiting task request => .waiting (.dispatching event actions task) request
    | .finished (.ok _) => .finished (.ok actions)
    | .finished (.error failure) => .finished (.error failure)⟩

/-- The first turn of an application. -/
def start (engine : Engine) (event : Event) : ApplicationTurn :=
  ⟨engine, [], .waiting (.lookingUp event) (.lookup event.tenantId)⟩

/-- The report on an application that begins. -/
def applyingEntry (event : Event) (tenant : Tenant) : LogEntry :=
  .info Pipeline.component (s!"Applying policies: tenant_id={event.tenantId} " ++
    s!"type={event.type} policies={tenant.policies.length}")

/-- The report on actions that go nowhere. -/
def undispatchedEntry (event : Event) (actions : List Action) : LogEntry :=
  .info Pipeline.component (s!"No sync engine configured, {actions.length} action(s) " ++
    s!"not dispatched for event_id={event.id.toText}")

/-- Go on once the tenant has been found: match its policies and execute what they ask for, if
there is an engine. -/
def proceed (setup? : Option EngineSetup) (engine : Engine) (event : Event) (tenant : Tenant) :
    ApplicationTurn :=
  let actions := Policy.matchActions event tenant.policies
  let entries := [applyingEntry event tenant,
    .info "policy_matcher" (Policy.matchReport event tenant.policies)]
  if actions.isEmpty then ⟨engine, entries, .finished (.ok actions)⟩
  else
    match setup? with
    | none => ⟨engine, entries ++ [undispatchedEntry event actions], .finished (.ok actions)⟩
    | some setup =>
      let turn := engine.start setup (.actions event.tenantId event.conversation actions)
      dispatched event actions (turn.after entries)

/-- The turn of an application after its wait has ended. -/
def resume (setup? : Option EngineSetup) (engine : Engine) (application : Application)
    (answer : Answer) : ApplicationTurn :=
  match application with
  | .lookingUp event =>
    match answer with
    | .found tenant => proceed setup? engine event tenant
    | .failed failure => ⟨engine, [], .finished (.error failure)⟩
    | .done => start engine event
  | .dispatching event actions task =>
    match setup? with
    | none => ⟨engine, [], .finished (.ok actions)⟩
    | some setup => dispatched event actions (engine.resume setup task answer)

/-- The state of the engine that a cancelled application leaves. -/
def cancel (engine : Engine) : Application → Engine
  | .lookingUp _ => engine
  | .dispatching _ _ task => engine.cancel task

end Application

end Automation
