import Automation.Proofs.Sync.Turn

/-!
# What a turn leaves for its task

A turn ends with a request that its task waits for, or with a result. This file says which request
belongs to which task, and how the result of a sync goes on from turn to turn.

## Main definitions

* `EngineTask.Asks` — what a waiting task asks for.
* `SyncResult.LeadsTo` — a result with no further message and maybe more failures.

## Main statements

* `EngineTask.Asks.send_iff` — which tasks of syncs send a message.
* `Engine.asks_start`, `Engine.asks_dispose`, `Engine.asks_resume` — a task that waits after a turn
  asks for what belongs to it.
* `Engine.result_resume_of_verdict` — a task that leaves a flight has its result settled by the
  landing, and by nothing else in the same turn.
* `Engine.result_resume` — the turns in which no flight is left count no message.
-/

namespace Automation

/-- What a waiting task asks for. A sender asks for its call while it tries and for a pause while
it backs off; a waiter asks for the landing of its flight and makes no call. -/
def EngineTask.Asks : EngineTask → Request → Prop
  | .resolving job, request => request = .lookup job.tenantId
  | .closingSurplus _ _, request => ∃ own, request = .close own
  | .sending sync _ value _ (.trying _), request =>
    request = .call sync.client sync.conversation (.send (Platform.content value))
  | .awaiting _ _ flight, request => request = .landing flight
  | .changing sync change (.trying _), request =>
    request = .call sync.client sync.conversation change.call
  | .acting list _ outbound (.trying _), request => request = Engine.outboundRequest list outbound
  | .sending _ _ _ _ (.pausing _), request | .changing _ _ (.pausing _), request
  | .acting _ _ _ (.pausing _), request => ∃ seconds, request = .pause seconds
  | .handling list action kind, request =>
    request = .handle list.client list.conversation kind action
  | .closing current _, request => request = .close current

/-- Of all tasks of syncs, those that send a message ask for a call that sends one. -/
theorem EngineTask.Asks.send_iff {task : EngineTask} {request : Request} (h : task.Asks request)
    (hsync : task.ofSync = true) :
    (∃ client conversation content, request = .call client conversation (.send content)) ↔
      ∃ id, task.calling? = some id := by
  cases task with
  | sending sync key value flight retrying =>
    cases retrying with
    | trying backoff => exact ⟨fun _ => ⟨_, rfl⟩, fun _ => ⟨_, _, _, h⟩⟩
    | pausing backoff =>
      obtain ⟨seconds, rfl⟩ := h
      simp [EngineTask.calling?]
  | awaiting sync key flight =>
    obtain rfl : request = .landing flight := h
    simp [EngineTask.calling?]
  | changing sync change retrying =>
    cases retrying with
    | trying backoff =>
      have h : request = .call sync.client sync.conversation change.call := h
      have hcall : ∀ content, change.call ≠ .send content := by
        intro content heq
        cases change <;> cases heq
      simp [h, hcall, EngineTask.calling?]
    | pausing backoff =>
      obtain ⟨seconds, rfl⟩ := h
      simp [EngineTask.calling?]
  | resolving job =>
    obtain rfl : request = .lookup job.tenantId := h
    simp [EngineTask.calling?]
  | closingSurplus job client =>
    obtain ⟨own, rfl⟩ := h
    simp [EngineTask.calling?]
  | acting _ _ _ _ | handling _ _ _ | closing _ _ => cases hsync

/-- A task that waits asks for what belongs to it. -/
def Progress.Asks : Progress → Prop
  | .waiting task request => task.Asks request
  | .finished _ => True

/-- One result leads to another: no further message is counted, and no failure is lost. -/
structure SyncResult.LeadsTo (result later : SyncResult) : Prop where
  messagesSent : later.messagesSent = result.messagesSent
  errors : result.errors <+: later.errors

namespace SyncResult.LeadsTo

theorem refl (result : SyncResult) : result.LeadsTo result := ⟨rfl, List.prefix_rfl⟩

theorem trans {a b c : SyncResult} (h : a.LeadsTo b) (h' : b.LeadsTo c) : a.LeadsTo c :=
  ⟨h'.messagesSent.trans h.messagesSent, h.errors.trans h'.errors⟩

theorem addError (result : SyncResult) (line : String) : result.LeadsTo (result.addError line) :=
  ⟨rfl, List.prefix_append _ _⟩

theorem applied (result : SyncResult) (change : Change) :
    result.LeadsTo (change.applied result) := by
  cases change <;> exact ⟨rfl, List.prefix_rfl⟩

theorem concludeChange (sync : Syncing) (change : Change) (failure? : Option Failure) :
    sync.result.LeadsTo (sync.concludeChange change failure?).1.result := by
  cases failure? with
  | none => exact applied _ change
  | some failure => exact addError _ _

end SyncResult.LeadsTo

theorem EngineTask.result?_of_attends? {task : EngineTask} {a : Attendance}
    (h : task.attends? = some a) : task.result? = some a.sync.result := by
  obtain ⟨-, value, retrying, rfl⟩ | ⟨-, rfl⟩ := EngineTask.eq_of_attends? h <;> rfl

theorem Progress.result?_of_attends? {progress : Progress} {a : Attendance}
    (h : progress.attends? = some a) : progress.result? = some a.sync.result := by
  cases progress with
  | waiting task request => exact EngineTask.result?_of_attends? h
  | finished result => cases h

namespace Engine

variable {options : RetryOptions} {setup : EngineSetup} {engine : Engine}

/-! ## Requests -/

theorem asks_proceedChanges (sync : Syncing) (changes : List Change) :
    (engine.proceedChanges options sync changes).progress.Asks := by
  induction changes generalizing sync with
  | nil => trivial
  | cons change rest ih =>
    rw [proceedChanges]
    split
    · exact rfl
    · exact ih _

theorem asks_proceedMessages (sync : Syncing) (messages : List (String × Json)) :
    (engine.proceedMessages options sync messages).progress.Asks := by
  induction messages generalizing engine sync with
  | nil => exact asks_proceedChanges sync sync.changes
  | cons message rest ih =>
    obtain ⟨key, value⟩ := message
    rw [proceedMessages]
    split
    · exact rfl
    · split
      · exact ih sync
      · cases hfirst : Backoff.first options with
        | ok backoff => exact rfl
        | error fault => exact ih _

theorem asks_proceedActions (acting : Acting) (actions : List Action) :
    (engine.proceedActions options acting actions).progress.Asks := by
  induction actions with
  | nil => trivial
  | cons action rest ih =>
    rw [proceedActions]
    split
    · exact ih
    · simp only [Turn.after]
      split
      · exact rfl
      · split
        · exact ih
        · exact ih
        · split
          · exact rfl
          · exact ih

theorem asks_proceed (client : Client) (job : Job) :
    (engine.proceed options client job).progress.Asks := by
  cases job with
  | sync tenantId conversation plan => exact asks_proceedMessages _ _
  | actions tenantId conversation actions => exact asks_proceedActions _ _
  | client tenantId => trivial

theorem asks_start (job : Job) : (engine.start setup job).progress.Asks := by
  cases hpool : engine.pool.lookup job.tenantId with
  | some client =>
    have hturn : (engine.proceed setup.retry client job).progress.Asks := asks_proceed client job
    cases job <;> simp only [start, hpool] <;> exact hturn
  | none => cases job <;> simp only [start, hpool] <;> exact rfl

theorem asks_engage (job : Job) (tenant : Tenant) :
    (engine.engage setup job tenant).progress.Asks := by
  rw [engage]
  split
  · trivial
  · split
    · exact ⟨_, rfl⟩
    · exact asks_proceed _ job

theorem asks_closeAll (clients : List Client) : (engine.closeAll clients).progress.Asks := by
  cases clients with
  | nil => trivial
  | cons client rest => exact rfl

theorem asks_dispose : engine.dispose.progress.Asks := asks_closeAll _

theorem asks_continueCall {task : Retrying → EngineTask} {request : Request} {step : CallStep}
    {onEnd : Option Failure → Turn} (htry : ∀ backoff, (task (.trying backoff)).Asks request)
    (hpause : ∀ backoff seconds, (task (.pausing backoff)).Asks (.pause seconds))
    (hend : ∀ failure?, (onEnd failure?).progress.Asks) :
    (engine.continueCall task request step onEnd).progress.Asks := by
  cases step with
  | attempt backoff => exact htry backoff
  | pause seconds backoff => exact hpause backoff seconds
  | ended failure? => exact hend failure?

theorem asks_resume (task : EngineTask) (answer : Answer) :
    (engine.resume setup task answer).progress.Asks := by
  cases task with
  | resolving job =>
    cases answer with
    | found tenant => exact asks_engage job tenant
    | done => exact rfl
    | failed failure => trivial
  | closingSurplus job client => exact asks_proceed client job
  | sending sync key value flight retrying =>
    exact asks_continueCall (fun _ => rfl) (fun _ seconds => ⟨seconds, rfl⟩)
      fun failure? => asks_proceedMessages _ _
  | awaiting sync key flight =>
    rw [resume]
    split
    · exact rfl
    · exact asks_proceedMessages _ _
    · exact asks_proceedMessages _ _
  | changing sync change retrying =>
    exact asks_continueCall (fun _ => rfl) (fun _ seconds => ⟨seconds, rfl⟩)
      fun failure? => asks_proceedChanges _ _
  | acting acting action outbound retrying =>
    exact asks_continueCall (fun _ => rfl) (fun _ seconds => ⟨seconds, rfl⟩)
      fun failure? => asks_proceedActions _ _
  | handling acting action kind => exact asks_proceedActions _ _
  | closing current rest => exact asks_closeAll rest

/-! ## Results -/

theorem result_proceedChanges (sync : Syncing) (changes : List Change) :
    ∃ result, (engine.proceedChanges options sync changes).progress.result? = some result ∧
      sync.result.LeadsTo result := by
  induction changes generalizing sync with
  | nil => exact ⟨sync.result, rfl, .refl _⟩
  | cons change rest ih =>
    rw [proceedChanges]
    split
    · exact ⟨sync.result, rfl, .refl _⟩
    next fault _ =>
      obtain ⟨result, hresult, hleads⟩ :=
        ih (sync.concludeChange change (some (.delay fault))).1
      exact ⟨result, hresult, (SyncResult.LeadsTo.concludeChange sync change _).trans hleads⟩

theorem result_proceedMessages (sync : Syncing) (messages : List (String × Json)) :
    ∃ result, (engine.proceedMessages options sync messages).progress.result? = some result ∧
      sync.result.LeadsTo result := by
  induction messages generalizing engine sync with
  | nil => exact result_proceedChanges sync sync.changes
  | cons message rest ih =>
    obtain ⟨key, value⟩ := message
    rw [proceedMessages]
    split
    · exact ⟨sync.result, rfl, .refl _⟩
    · split
      · exact ih sync
      · cases hfirst : Backoff.first options with
        | ok backoff => exact ⟨sync.result, rfl, .refl _⟩
        | error fault =>
          obtain ⟨result, hresult, hleads⟩ :=
            ih (sync.fail (Syncing.unsentLine key (Failure.delay fault).message))
          exact ⟨result, hresult, (SyncResult.LeadsTo.addError _ _).trans hleads⟩

/-- When calls can be made at all, a walk ends without a word in the result: at a message in
flight, with a message put in flight, or behind the last one. -/
theorem result_proceedMessages_of_first {backoff : Backoff}
    (hfirst : Backoff.first options = .ok backoff) (sync : Syncing)
    (messages : List (String × Json)) :
    (engine.proceedMessages options sync messages).progress.result? = some sync.result := by
  induction messages generalizing engine sync with
  | nil =>
    rw [proceedMessages]
    cases hchanges : sync.changes with
    | nil => rfl
    | cons change rest => simp [proceedChanges, hfirst, wait, Progress.result?, EngineTask.result?]
  | cons message rest ih =>
    obtain ⟨key, value⟩ := message
    rw [proceedMessages, hfirst]
    split
    · rfl
    · split
      · exact ih sync
      · rfl

/-- When not even the first delay can be computed with, a send fails within the turn that puts it
in flight, and the walk goes on with one more failure. -/
theorem proceedMessages_of_fault {fault : ArithmeticFault}
    (hfirst : Backoff.first options = .error fault) {sync : Syncing} {key : String}
    (hunlisted : engine.inFlight.lookup (sync.messageKey key) = none)
    (hfresh : sync.messageKey key ∉ engine.processed) (value : Json)
    (rest : List (String × Json)) :
    ∃ other entries, engine.Keeps other ∧
      engine.proceedMessages options sync ((key, value) :: rest) =
        (other.proceedMessages options
          (sync.fail (Syncing.unsentLine key (Failure.delay fault).message))
          rest).after entries := by
  let message := (Failure.delay fault).message
  refine ⟨_, [.error component s!"Failed to send message: key={key} error={message}"],
    .of_lost hunlisted hfresh message, ?_⟩
  rw [proceedMessages, hunlisted]
  simp only [List.contains_eq_mem, hfresh, decide_false, Bool.false_eq_true, if_false, hfirst]
  rfl

theorem result_resume_of_verdict {task : EngineTask} {a : Attendance} {answer : Answer}
    {landing : Landing} {backoff : Backoff} (hfirst : Backoff.first setup.retry = .ok backoff)
    (h : task.attends? = some a)
    (hv : engine.verdict? setup.retry task answer = some landing) :
    (engine.resume setup task answer).progress.result? =
      some (landing.settle a.part a.key a.sync.result) := by
  obtain ⟨entries, hturn⟩ := resume_of_verdict h hv
  rw [hturn]
  exact result_proceedMessages_of_first hfirst _ _

/-- The turn of a sync that attends no flight. -/
theorem result_resume {task : EngineTask} {result : SyncResult}
    (hresult : task.result? = some result) (h : task.attends? = none) (answer : Answer) :
    ∃ later, (engine.resume setup task answer).progress.result? = some later ∧
      result.LeadsTo later := by
  cases task with
  | changing sync change retrying =>
    cases hresult
    rcases hstep : retrying.step setup.retry answer with ⟨step, entries⟩
    simp only [resume, hstep]
    cases step with
    | attempt backoff => exact ⟨sync.result, rfl, .refl _⟩
    | pause seconds backoff => exact ⟨sync.result, rfl, .refl _⟩
    | ended failure? =>
      obtain ⟨later, hlater, hleads⟩ := @result_proceedChanges setup.retry engine
        (sync.concludeChange change failure?).1 (sync.concludeChange change failure?).1.changes
      exact ⟨later, hlater, (SyncResult.LeadsTo.concludeChange sync change _).trans hleads⟩
  | sending _ _ _ _ _ | awaiting _ _ _ => cases h
  | resolving _ | closingSurplus _ _ | acting _ _ _ _ | handling _ _ _ | closing _ _ =>
    cases hresult

end Engine

end Automation
