import Automation.Sync.Engine.Basic

/-!
# Turns of the sync engine

What the tasks of the engine do between their waits. A task starts, waits for one thing at a time,
goes on when its wait ends, and may be cancelled at any wait. Within a turn nothing else happens,
so the turns of all tasks, in any order, are the runs of the engine.

Every outbound call is retried on its own. A failed one is recorded and the task goes on; only the
lookup of the tenant and the making of its client can end a task early.

## Main definitions

* `Engine.start` — the first turn of a job.
* `Engine.dispose` — the first turn of closing all clients.
* `Engine.resume` — the turn after a wait.
* `Engine.cancel` — the state that a cancelled task leaves.
-/

namespace Automation

/-- What follows in a retried call: the next attempt, a pause, or its end. -/
inductive CallStep where
  | attempt (backoff : Backoff)
  | pause (seconds : Binary64) (backoff : Backoff)
  | ended (failure? : Option Failure)
  deriving DecidableEq, Repr

/-- What follows in a retried call after a wait has ended, and the reports on it. -/
def Retrying.step (options : RetryOptions) : Retrying → Answer → CallStep × List LogEntry
  | .trying backoff, .failed failure =>
    match backoff.decide options failure.message with
    | (.giveUp, entries) => (.ended (some failure), entries)
    | (.stop fault, entries) => (.ended (some (.delay fault)), entries)
    | (.pause seconds, entries) => (.pause seconds backoff, entries)
  | .trying _, .done | .trying _, .found _ => (.ended none, [])
  | .pausing backoff, _ =>
    match backoff.next options with
    | .error fault => (.ended (some (.delay fault)), [])
    | .ok following => (.attempt following, [])

namespace Syncing

/-- The sync with one more failure in its result. -/
def fail (sync : Syncing) (line : String) : Syncing :=
  { sync with result := sync.result.addError line }

/-- The sync with one more message in its result. -/
def countMessage (sync : Syncing) : Syncing :=
  { sync with result := { sync.result with messagesSent := sync.result.messagesSent + 1 } }

/-- The line about a message that was not sent. -/
def unsentLine (key message : String) : String :=
  s!"Failed to send message '{key}': {message}"

/-- The key of a message of the sync. -/
def messageKey (sync : Syncing) (key : String) : String :=
  Automation.messageKey sync.tenantId sync.conversation key

/-- The first report of a sync. -/
def startEntry (tenantId : String) (conversation : Json) (plan : ExecutionPlan) : LogEntry :=
  let id := conversation.plainText
  .info Engine.component
    (s!"Starting sync: tenant_id={tenantId} conversation_id={id} " ++
      s!"messages={plan.messages.length} labels_add={plan.labels.add.length} " ++
      s!"labels_remove={plan.labels.remove.length} attributes={plan.contactAttributes.length}")

/-- The last reports of a sync. -/
def endEntries (sync : Syncing) : List LogEntry :=
  let id := sync.conversation.plainText
  let events := (LabelDelta.textsJson sync.emitEvents).display
  (if sync.emitEvents.isEmpty then []
    else [.info Engine.component ("Plan emit_events are not dispatched by sync: tenant_id=" ++
      s!"{sync.tenantId} events={events}")]) ++
  [.info Engine.component
    (s!"Sync completed: tenant_id={sync.tenantId} conversation_id={id} " ++
      s!"messages_sent={sync.result.messagesSent} " ++
      s!"labels_updated={sync.result.labelsUpdated} " ++
      s!"attributes_updated={sync.result.attributesUpdated} errors={sync.result.errors.length}")]

/-- The sync after a change has ended, and the report on a failure. -/
def concludeChange (sync : Syncing) (change : Change) :
    Option Failure → Syncing × List LogEntry
  | none => ({ sync with result := change.applied sync.result }, [])
  | some failure =>
    let title := "Failed to " ++ change.purpose ++ ": "
    (sync.fail (title ++ failure.message),
      [.error Engine.component (title ++ "error=" ++ failure.message)])

end Syncing

namespace Turn

/-- The turn with reports in front of its own. -/
def after (entries : List LogEntry) (turn : Turn) : Turn :=
  { turn with entries := entries ++ turn.entries }

end Turn

namespace Engine

/-- The turn of a task that waits. -/
def wait (engine : Engine) (task : EngineTask) (request : Request) : Turn :=
  ⟨engine, [], .waiting task request⟩

/-- The turn of a task that is finished. -/
def finish (engine : Engine) (result : Except Failure JobResult) : Turn :=
  ⟨engine, [], .finished result⟩

/-- Make the changes of a sync that are left, then finish it. -/
def proceedChanges (options : RetryOptions) (engine : Engine) : Syncing → List Change → Turn
  | sync, [] => (engine.finish (.ok (.synced sync.result))).after sync.endEntries
  | sync, change :: rest =>
    match Backoff.first options with
    | .ok backoff =>
      engine.wait (.changing { sync with messages := [], changes := rest } change (.trying backoff))
        (.call sync.client sync.conversation change.call)
    | .error fault =>
      let (sync, entries) := sync.concludeChange change (some (.delay fault))
      (proceedChanges options engine sync rest).after entries

/-- The engine and the sync after a send of its own has ended, and the report on a failure. -/
def concludeSend (engine : Engine) (sync : Syncing) (key : String) (flight : Nat) :
    Option Failure → Engine × Syncing × List LogEntry
  | none => (engine.land (sync.messageKey key) flight .delivered, sync.countMessage, [])
  | some failure =>
    (engine.land (sync.messageKey key) flight (.failed failure.message),
      sync.fail (Syncing.unsentLine key failure.message),
      [.error component s!"Failed to send message: key={key} error={failure.message}"])

/-- Send the messages of a sync that are left, then make its changes. A message in flight is
waited for, one that is processed is skipped, any other is put in flight and sent. -/
def proceedMessages (options : RetryOptions) (engine : Engine) (sync : Syncing) :
    List (String × Json) → Turn
  | [] => proceedChanges options engine sync sync.changes
  | (key, value) :: rest =>
    let messageKey := sync.messageKey key
    match engine.inFlight.lookup messageKey with
    | some flight =>
      (engine.wait (.awaiting { sync with messages := rest } key flight) (.landing flight)).after
        [.info component ("Waiting for in-flight message: " ++ messageKey)]
    | none =>
      if engine.processed.contains messageKey then
        (proceedMessages options engine sync rest).after
          [.info component ("Skipping duplicate message: " ++ messageKey)]
      else
        let (reserved, flight) := engine.reserve messageKey
        match Backoff.first options with
        | .ok backoff =>
          reserved.wait
            (.sending { sync with messages := rest } key value flight (.trying backoff))
            (.call sync.client sync.conversation (.send (Platform.content value)))
        | .error fault =>
          let (landed, sync, entries) :=
            reserved.concludeSend sync key flight (some (.delay fault))
          (proceedMessages options landed sync rest).after entries

/-- The report on a failed action. -/
def failedActionEntry (action : Action) (failure : Failure) : LogEntry :=
  .error component
    s!"Failed to execute action: type={action.type} error={failure.message}"

/-- The report on an action that is about to be executed. -/
def executingEntry (acting : Acting) (action : Action) : LogEntry :=
  let id := acting.conversation.plainText
  .info component
    (s!"Executing action: type={action.type} tenant_id={acting.tenantId} conversation_id={id}")

/-- The request that makes an outbound call. -/
def outboundRequest (acting : Acting) : Outbound → Request
  | .platform call => .call acting.client acting.conversation call
  | .webhook url payload => .deliver url payload

/-- Execute the actions that are left. An action of no known kind is passed over, one whose kind
has a handler is left to it, any other is done as it intends. -/
def proceedActions (options : RetryOptions) (engine : Engine) (acting : Acting) :
    List Action → Turn
  | [] => engine.finish (.ok .acted)
  | action :: rest =>
    match action.kind? with
    | none =>
      (proceedActions options engine acting rest).after [.warning component
        s!"Unsupported action type: type={action.type} tenant_id={acting.tenantId}"]
    | some kind =>
      let turn :=
        if engine.handlers.contains kind then
          engine.wait (.handling { acting with actions := rest } action kind)
            (.handle acting.client acting.conversation kind action)
        else
          match action.intent acting.conversation kind with
          | .nothing remark =>
            (proceedActions options engine acting rest).after [.info component remark]
          | .impossible failure =>
            (proceedActions options engine acting rest).after [failedActionEntry action failure]
          | .call outbound =>
            match Backoff.first options with
            | .ok backoff =>
              engine.wait
                (.acting { acting with actions := rest } action outbound (.trying backoff))
                (outboundRequest acting outbound)
            | .error fault =>
              (proceedActions options engine acting rest).after
                [failedActionEntry action (.delay fault)]
      turn.after [executingEntry acting action]

/-- Go on with a job whose client is at hand. -/
def proceed (options : RetryOptions) (engine : Engine) (client : Client) : Job → Turn
  | .sync tenantId conversation plan =>
    proceedMessages options engine
      ⟨tenantId, conversation, client, plan.messages, plan.changes, plan.emitEvents, .nothing⟩
      plan.messages
  | .actions tenantId conversation actions =>
    proceedActions options engine ⟨tenantId, conversation, client, actions⟩ actions
  | .client _ => engine.finish (.ok (.client client))

/-- The first turn of a job: it needs the client of its tenant, which may be pooled already. -/
def start (setup : EngineSetup) (engine : Engine) (job : Job) : Turn :=
  let turn := match engine.pool.lookup job.tenantId with
    | some client => proceed setup.retry engine client job
    | none => engine.wait (.resolving job) (.lookup job.tenantId)
  match job with
  | .sync tenantId conversation plan =>
    turn.after [Syncing.startEntry tenantId conversation plan]
  | .actions .. | .client _ => turn

/-- Go on with a job whose tenant has been found: make a client, and pool it unless another task
has pooled one meanwhile; then the own one is closed. -/
def engage (setup : EngineSetup) (engine : Engine) (job : Job) (tenant : Tenant) : Turn :=
  match setup.obstacle tenant with
  | some failure => engine.finish (.error failure)
  | none =>
    let own : Client := ⟨engine.created + 1, tenant.id, tenant.messaging⟩
    let counted := { engine with created := engine.created + 1 }
    match engine.pool.lookup job.tenantId with
    | some pooled => counted.wait (.closingSurplus job pooled) (.close own)
    | none =>
      let pooled := { counted with pool := counted.pool ++ [(job.tenantId, own)] }
      (proceed setup.retry pooled own job).after
        [.info component ("Created messaging client for tenant_id=" ++ job.tenantId)]

/-- Close clients one after another. -/
def closeAll (engine : Engine) : List Client → Turn
  | [] => engine.finish (.ok .disposed)
  | client :: rest => engine.wait (.closing client rest) (.close client)

/-- The first turn of closing all clients: none of them is pooled any more. -/
def dispose (engine : Engine) : Turn :=
  { engine with pool := [] }.closeAll (engine.pool.map Prod.snd)

/-- The turn of a retried call that goes on, in terms of where its task stands meanwhile. -/
def continueCall (engine : Engine) (task : Retrying → EngineTask) (request : Request)
    (step : CallStep) (onEnd : Option Failure → Turn) : Turn :=
  match step with
  | .attempt backoff => engine.wait (task (.trying backoff)) request
  | .pause seconds backoff => engine.wait (task (.pausing backoff)) (.pause seconds)
  | .ended failure? => onEnd failure?

/-- The turn of a task after its wait has ended. A send that has not landed yet is waited for
again. -/
def resume (setup : EngineSetup) (engine : Engine) (task : EngineTask) (answer : Answer) : Turn :=
  match task with
  | .resolving job =>
    match answer with
    | .found tenant => engage setup engine job tenant
    | .failed failure => engine.finish (.error failure)
    | .done => engine.wait task (.lookup job.tenantId)
  | .closingSurplus job client => proceed setup.retry engine client job
  | .sending sync key value flight retrying =>
    let (step, entries) := retrying.step setup.retry answer
    (continueCall engine (.sending sync key value flight)
      (.call sync.client sync.conversation (.send (Platform.content value))) step
      fun failure? =>
        let (landed, sync, more) := engine.concludeSend sync key flight failure?
        (proceedMessages setup.retry landed sync sync.messages).after more).after entries
  | .awaiting sync key flight =>
    match engine.landing? flight with
    | none => engine.wait task (.landing flight)
    | some .delivered => proceedMessages setup.retry engine sync sync.messages
    | some (.failed message) =>
      proceedMessages setup.retry engine (sync.fail (Syncing.unsentLine key message))
        sync.messages
  | .changing sync change retrying =>
    let (step, entries) := retrying.step setup.retry answer
    (continueCall engine (.changing sync change)
      (.call sync.client sync.conversation change.call) step
      fun failure? =>
        let (sync, more) := sync.concludeChange change failure?
        (proceedChanges setup.retry engine sync sync.changes).after more).after entries
  | .acting acting action outbound retrying =>
    let (step, entries) := retrying.step setup.retry answer
    (continueCall engine (.acting acting action outbound) (outboundRequest acting outbound) step
      fun failure? =>
        (proceedActions setup.retry engine acting acting.actions).after
          (failure?.toList.map (failedActionEntry action))).after entries
  | .handling acting action _ =>
    let entries := match answer with
      | .failed failure => [failedActionEntry action failure]
      | .done | .found _ => []
    (proceedActions setup.retry engine acting acting.actions).after entries
  | .closing _ rest => engine.closeAll rest

/-- What a cancelled sync leaves to those who wait for its message. -/
def cancelledMessage : String := "send was cancelled"

/-- The state that a cancelled task leaves: a message in flight lands as failed. -/
def cancel (engine : Engine) : EngineTask → Engine
  | .sending sync key _ flight _ =>
    engine.land (sync.messageKey key) flight (.failed cancelledMessage)
  | .resolving _ | .closingSurplus .. | .awaiting .. | .changing .. | .acting .. | .handling ..
  | .closing .. => engine

end Engine

end Automation
