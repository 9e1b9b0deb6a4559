import Automation.Sync.Engine.Turn
import Mathlib.Logic.Function.Basic

/-!
# What a turn does to the messages

The engine keeps three tables about messages: the keys that count as sent, the keys in flight, and
the flights with their landings. A task that sends a message, or waits for one that another task
is sending, *attends* a flight. This file says once how each turn of the engine changes the three
tables and which flight its task attends afterwards.

## Main definitions

* `Attendance`, `EngineTask.attends?` — which flight a task attends, and as what.
* `Engine.verdict?` — how an attended flight ends for a task with an answer.
* `Engine.Keeps` — the tables are the same, up to sends that never took off.
* `Engine.Enters`, `Engine.Opens` — how a turn leaves the tables, and which flight its task attends.

## Main statements

* `Engine.opens_start`, `Engine.opens_dispose`, `Engine.opens_resume` — the turns of tasks that
  attend no flight.
* `Engine.resume_of_no_verdict`, `Engine.resume_of_verdict` — the turns of those that do.
-/

namespace Automation

/-- A message of a conversation: its tenant, its conversation and its key in a plan. -/
structure MessageId where
  tenantId : String
  conversation : Json
  key : String
  deriving DecidableEq, Repr

/-- The key under which a message is sent at most once. -/
def MessageId.messageKey (id : MessageId) : String :=
  Automation.messageKey id.tenantId id.conversation id.key

/-- What a task is in a flight: the one that sends, or one that waits for the landing. -/
inductive Part where
  | sender
  | waiter
  deriving DecidableEq, Repr

/-- The part of a sync in a flight, with its key for the message and its result so far. -/
structure Attendance where
  part : Part
  sync : Syncing
  key : String
  flight : Nat
  deriving DecidableEq, Repr

/-- The result of a sync that learns how a flight has landed which it attends. -/
def Landing.settle (landing : Landing) (part : Part) (key : String) (result : SyncResult) :
    SyncResult :=
  match landing, part with
  | .delivered, .sender => { result with messagesSent := result.messagesSent + 1 }
  | .delivered, .waiter => result
  | .failed message, _ => result.addError (Syncing.unsentLine key message)

namespace Attendance

/-- The message of an attendance. -/
def message (a : Attendance) : MessageId := ⟨a.sync.tenantId, a.sync.conversation, a.key⟩

/-- The key under which the message of an attendance is sent at most once. -/
def messageKey (a : Attendance) : String := a.sync.messageKey a.key

theorem messageKey_message (a : Attendance) : a.message.messageKey = a.messageKey := rfl

/-- The sync of an attendance once the flight has landed. -/
def settled (a : Attendance) (landing : Landing) : Syncing :=
  { a.sync with result := landing.settle a.part a.key a.sync.result }

end Attendance

/-- Whether a job is a sync. -/
def Job.isSync : Job → Bool
  | .sync .. => true
  | .actions .. | .client _ => false

namespace EngineTask

/-- Whether a task belongs to a sync. -/
def ofSync : EngineTask → Bool
  | .resolving job | .closingSurplus job _ => job.isSync
  | .sending .. | .awaiting .. | .changing .. => true
  | .acting .. | .handling .. | .closing .. => false

/-- The flight that a task attends. -/
def attends? : EngineTask → Option Attendance
  | .sending sync key _ flight _ => some ⟨.sender, sync, key, flight⟩
  | .awaiting sync key flight => some ⟨.waiter, sync, key, flight⟩
  | .resolving _ | .closingSurplus .. | .changing .. | .acting .. | .handling .. | .closing .. =>
    none

/-- The message for which a task has a call under way. -/
def calling? : EngineTask → Option MessageId
  | .sending sync key _ _ (.trying _) => some ⟨sync.tenantId, sync.conversation, key⟩
  | .sending _ _ _ _ (.pausing _) | .awaiting .. | .resolving _ | .closingSurplus .. | .changing ..
  | .acting .. | .handling .. | .closing .. => none

/-- The result so far of a sync that has its client. -/
def result? : EngineTask → Option SyncResult
  | .sending sync .. | .awaiting sync .. | .changing sync .. => some sync.result
  | .resolving _ | .closingSurplus .. | .acting .. | .handling .. | .closing .. => none

end EngineTask

/-- Whether a wait ends without a failure. -/
def Answer.succeeds : Answer → Bool
  | .found _ | .done => true
  | .failed _ => false

theorem EngineTask.calling?_of_attends? {task : EngineTask} (h : task.attends? = none) :
    task.calling? = none := by
  cases task with
  | sending _ _ _ _ _ | awaiting _ _ _ => cases h
  | resolving _ | closingSurplus _ _ | changing _ _ _ | acting _ _ _ _ | handling _ _ _
  | closing _ _ => rfl

theorem EngineTask.eq_of_attends? {task : EngineTask} {a : Attendance}
    (h : task.attends? = some a) :
    (a.part = .sender ∧ ∃ value retrying,
      task = .sending a.sync a.key value a.flight retrying) ∨
    (a.part = .waiter ∧ task = .awaiting a.sync a.key a.flight) := by
  cases task with
  | sending sync key value flight retrying =>
    cases h
    exact .inl ⟨rfl, value, retrying, rfl⟩
  | awaiting sync key flight =>
    cases h
    exact .inr ⟨rfl, rfl⟩
  | resolving _ | closingSurplus _ _ | changing _ _ _ | acting _ _ _ _ | handling _ _ _
  | closing _ _ => cases h

namespace Progress

/-- The flight that a task attends after its turn. -/
def attends? : Progress → Option Attendance
  | .waiting task _ => task.attends?
  | .finished _ => none

/-- The result of a sync after its turn. -/
def result? : Progress → Option SyncResult
  | .waiting task _ => task.result?
  | .finished (.ok (.synced result)) => some result
  | .finished _ => none

end Progress

/-- The landing of a send whose retried call has ended. -/
def Landing.ofFailure? : Option Failure → Landing
  | none => .delivered
  | some failure => .failed failure.message

/-- A retried call ends well exactly when one of its attempts does. -/
theorem Retrying.step_eq_ended_none_iff {options : RetryOptions} {retrying : Retrying}
    {answer : Answer} :
    (retrying.step options answer).1 = .ended none ↔
      (∃ backoff, retrying = .trying backoff) ∧ answer.succeeds := by
  cases retrying with
  | trying backoff =>
    cases answer with
    | found tenant => simp [Retrying.step, Answer.succeeds]
    | done => simp [Retrying.step, Answer.succeeds]
    | failed failure =>
      simp only [Retrying.step, Answer.succeeds]
      split <;> simp_all
  | pausing backoff =>
    simp only [Retrying.step]
    split <;> simp_all

theorem Turn.after_after (first second : List LogEntry) (turn : Turn) :
    (turn.after second).after first = turn.after (first ++ second) := by
  simp [Turn.after, List.append_assoc]

namespace Engine

/-- How an attended flight ends for a task that goes on with an answer, if it does: a sender takes
the end of its retried call, a waiter looks at the flight. -/
def verdict? (options : RetryOptions) (engine : Engine) (task : EngineTask) (answer : Answer) :
    Option Landing :=
  match task with
  | .sending _ _ _ _ retrying =>
    match (retrying.step options answer).1 with
    | .ended failure? => some (.ofFailure? failure?)
    | .attempt _ | .pause .. => none
  | .awaiting _ _ flight => engine.landing? flight
  | .resolving _ | .closingSurplus .. | .changing .. | .acting .. | .handling .. | .closing .. =>
    none

/-- The engine when a task leaves the flight that it attends: the sender makes it land. -/
def conclude (engine : Engine) (a : Attendance) (landing : Landing) : Engine :=
  match a.part with
  | .sender => engine.land a.messageKey a.flight landing
  | .waiter => engine

theorem conclude_of_sender {engine : Engine} {a : Attendance} {landing : Landing}
    (h : a.part = .sender) :
    engine.conclude a landing = engine.land a.messageKey a.flight landing := by
  rw [conclude, h]

theorem flights_conclude_of_sender {engine : Engine} {a : Attendance} {landing : Landing}
    (h : a.part = .sender) :
    (engine.conclude a landing).flights = engine.flights.set a.flight (some landing) := by
  rw [conclude_of_sender h]
  rfl

theorem conclude_of_waiter {engine : Engine} {a : Attendance} {landing : Landing}
    (h : a.part = .waiter) : engine.conclude a landing = engine := by
  rw [conclude, h]

theorem flights_conclude_length (engine : Engine) (a : Attendance) (landing : Landing) :
    (engine.conclude a landing).flights.length = engine.flights.length := by
  cases hpart : a.part with
  | sender => simp [flights_conclude_of_sender hpart]
  | waiter => rw [conclude_of_waiter hpart]

theorem landing?_eq_some_iff {engine : Engine} {flight : Nat} {landing : Landing} :
    engine.landing? flight = some landing ↔ engine.flights[flight]? = some (some landing) := by
  simp [landing?, Option.join_eq_some_iff]

/-- The tables of messages are the same, up to sends that failed before they took off. -/
structure Keeps (engine other : Engine) : Prop where
  processed : other.processed = engine.processed
  inFlight : other.inFlight = engine.inFlight
  flights : ∃ lost : List String,
    other.flights = engine.flights ++ lost.map fun message => some (.failed message)

/-- What a turn may do from tables on: its task attends no flight afterwards; or it waits for a
message in flight; or it has put a message in flight that was neither in flight nor processed. -/
inductive Enters (options : RetryOptions) (engine other : Engine) : Option Attendance → Prop
  | away (kept : engine.Keeps other) : Enters options engine other none
  | joins (a : Attendance) (part : a.part = .waiter) (kept : engine.Keeps other)
      (listed : engine.inFlight.lookup a.messageKey = some a.flight) :
      Enters options engine other (some a)
  | sends (a : Attendance) (before : Engine) (backoff : Backoff) (part : a.part = .sender)
      (kept : engine.Keeps before)
      (unlisted : engine.inFlight.lookup a.messageKey = none)
      (fresh : a.messageKey ∉ engine.processed)
      (first : Backoff.first options = .ok backoff)
      (flight : a.flight = before.flights.length)
      (reserves : other = (before.reserve a.messageKey).1) :
      Enters options engine other (some a)

variable {options : RetryOptions} {setup : EngineSetup} {engine other third : Engine}
  {seat : Option Attendance}

namespace Keeps

theorem refl (engine : Engine) : engine.Keeps engine := ⟨rfl, rfl, [], by simp⟩

theorem trans (h : engine.Keeps other) (h' : other.Keeps third) : engine.Keeps third := by
  obtain ⟨lost, hlost⟩ := h.flights
  obtain ⟨lost', hlost'⟩ := h'.flights
  refine ⟨h'.processed.trans h.processed, h'.inFlight.trans h.inFlight, lost ++ lost', ?_⟩
  rw [hlost', hlost, List.map_append, List.append_assoc]

theorem length_le (h : engine.Keeps other) : engine.flights.length ≤ other.flights.length := by
  obtain ⟨lost, hlost⟩ := h.flights
  simp [hlost]

theorem of_pool (pool : List (String × Client)) (created : Nat) :
    engine.Keeps { engine with pool, created } := ⟨rfl, rfl, [], by simp⟩

/-- A send that fails before it takes off leaves a landed flight and nothing else. -/
theorem of_lost {key : String} (hlisted : engine.inFlight.lookup key = none)
    (hfresh : key ∉ engine.processed) (message : String) :
    engine.Keeps ((engine.reserve key).1.land key engine.flights.length (.failed message)) := by
  have hkeys : ∀ entry ∈ engine.inFlight, entry.1 ≠ key := by
    intro entry hentry heq
    simpa [heq] using List.lookup_eq_none_iff.mp hlisted entry hentry
  have hprocessed : ∀ k ∈ engine.processed, k ≠ key := fun k hk heq => hfresh (heq ▸ hk)
  refine ⟨?_, ?_, [message], ?_⟩
  · simpa [land, reserve, List.insert_of_not_mem hfresh] using hprocessed
  · simpa [land, reserve] using fun k f hk => hkeys (k, f) hk
  · simp [land, reserve]

end Keeps

namespace Enters

/-- What is kept in front of a turn may count as part of it. -/
theorem of_keeps (hkeep : engine.Keeps other) (h : other.Enters options third seat) :
    engine.Enters options third seat := by
  cases h with
  | away kept => exact .away (hkeep.trans kept)
  | joins a part kept listed => exact .joins a part (hkeep.trans kept) (hkeep.inFlight ▸ listed)
  | sends a before backoff part kept unlisted fresh first flight reserves =>
    exact .sends a before backoff part (hkeep.trans kept) (hkeep.inFlight ▸ unlisted)
      (hkeep.processed ▸ fresh) first flight reserves

theorem of_none (h : seat = none) : engine.Enters options engine seat := h ▸ .away (.refl engine)

/-- What takes off has a flight that was not there before. -/
theorem le_flight {a : Attendance} (h : engine.Enters options other (some a))
    (hsender : a.part = .sender) : engine.flights.length ≤ a.flight := by
  cases h with
  | joins _ part kept listed =>
    rw [part] at hsender
    cases hsender
  | sends _ before backoff part kept unlisted fresh first flight reserves =>
    rw [flight]
    exact kept.length_le

theorem length_le (h : engine.Enters options other seat) :
    engine.flights.length ≤ other.flights.length := by
  cases h with
  | away kept => exact kept.length_le
  | joins a part kept listed => exact kept.length_le
  | sends a before backoff part kept unlisted fresh first flight reserves =>
    simpa [reserves, reserve] using Nat.le_succ_of_le kept.length_le

end Enters

/-- A turn that does from the tables of the engine on what a turn may do. -/
def Opens (options : RetryOptions) (engine : Engine) (turn : Turn) : Prop :=
  engine.Enters options turn.engine turn.progress.attends?

/-! ## Entering a flight -/

theorem opens_proceedChanges (sync : Syncing) (changes : List Change) :
    engine.Opens options (engine.proceedChanges options sync changes) := by
  induction changes generalizing sync with
  | nil => exact .of_none rfl
  | cons change rest ih =>
    rw [proceedChanges]
    split
    · exact .of_none rfl
    · exact ih _

theorem opens_proceedMessages (sync : Syncing) (messages : List (String × Json)) :
    engine.Opens options (engine.proceedMessages options sync messages) := by
  induction messages generalizing engine sync with
  | nil => exact opens_proceedChanges sync sync.changes
  | cons message rest ih =>
    obtain ⟨key, value⟩ := message
    rw [proceedMessages]
    split
    next flight listed =>
      exact .joins ⟨.waiter, { sync with messages := rest }, key, flight⟩ rfl (.refl engine) listed
    next unlisted =>
      by_cases hprocessed : engine.processed.contains (sync.messageKey key)
      · rw [if_pos hprocessed]
        exact ih sync
      · rw [if_neg hprocessed]
        have fresh : sync.messageKey key ∉ engine.processed := by simpa using hprocessed
        cases first : Backoff.first options with
        | ok backoff =>
          exact .sends ⟨.sender, { sync with messages := rest }, key, engine.flights.length⟩ engine
            backoff rfl (.refl engine) unlisted fresh first rfl rfl
        | error fault =>
          -- the send fails before its first call, so the walk goes on in the same turn
          exact .of_keeps (.of_lost unlisted fresh (Failure.delay fault).message) (ih _)

theorem opens_proceedActions (acting : Acting) (actions : List Action) :
    engine.Opens options (engine.proceedActions options acting actions) := by
  induction actions with
  | nil => exact .of_none rfl
  | cons action rest ih =>
    rw [proceedActions]
    split
    · exact ih
    · simp only [Opens, Turn.after]
      split
      · exact .of_none rfl
      · split
        · exact ih
        · exact ih
        · split
          · exact .of_none rfl
          · exact ih

theorem opens_proceed (client : Client) (job : Job) :
    engine.Opens options (engine.proceed options client job) := by
  cases job with
  | sync tenantId conversation plan => exact opens_proceedMessages _ _
  | actions tenantId conversation actions => exact opens_proceedActions _ _
  | client tenantId => exact .of_none rfl

theorem opens_start (job : Job) : engine.Opens setup.retry (engine.start setup job) := by
  cases hpool : engine.pool.lookup job.tenantId with
  | some client =>
    have hturn : engine.Opens setup.retry (engine.proceed setup.retry client job) :=
      opens_proceed client job
    cases job <;> simp only [start, hpool] <;> exact hturn
  | none => cases job <;> simp only [start, hpool] <;> exact .of_none rfl

theorem opens_engage (job : Job) (tenant : Tenant) :
    engine.Opens setup.retry (engine.engage setup job tenant) := by
  rw [engage]
  split
  · exact .of_none rfl
  · -- only the pool and the number of clients change before the job goes on
    split
    · exact .away (.of_pool engine.pool _)
    · exact .of_keeps (.of_pool _ _) (opens_proceed _ job)

theorem opens_closeAll (clients : List Client) :
    engine.Opens options (engine.closeAll clients) := by
  cases clients with
  | nil => exact .of_none rfl
  | cons client rest => exact .of_none rfl

theorem opens_dispose : engine.Opens options engine.dispose :=
  .of_keeps (.of_pool [] engine.created) (opens_closeAll _)

/-- A call that is retried on behalf of a task which attends no flight. -/
theorem opens_continueCall {task : Retrying → EngineTask} {request : Request} {step : CallStep}
    {onEnd : Option Failure → Turn} (htask : ∀ retrying, (task retrying).attends? = none)
    (hend : ∀ failure?, engine.Opens options (onEnd failure?)) :
    engine.Opens options (engine.continueCall task request step onEnd) := by
  cases step with
  | attempt backoff => exact .of_none (htask _)
  | pause seconds backoff => exact .of_none (htask _)
  | ended failure? => exact hend failure?

/-- The turn of a task that attends no flight. -/
theorem opens_resume {task : EngineTask} (h : task.attends? = none) (answer : Answer) :
    engine.Opens setup.retry (engine.resume setup task answer) := by
  cases task with
  | resolving job =>
    cases answer with
    | found tenant => exact opens_engage job tenant
    | done => exact .of_none rfl
    | failed failure => exact .of_none rfl
  | closingSurplus job client => exact opens_proceed client job
  | sending _ _ _ _ _ | awaiting _ _ _ => cases h
  | changing sync change retrying =>
    exact opens_continueCall (fun _ => rfl) fun failure? => opens_proceedChanges _ _
  | acting acting action outbound retrying =>
    exact opens_continueCall (fun _ => rfl) fun failure? => opens_proceedActions _ _
  | handling acting action kind => exact opens_proceedActions _ _
  | closing current rest => exact opens_closeAll rest

/-! ## Leaving a flight -/

/-- A call that was under way returns successfully exactly when a sender delivers its message. -/
theorem calling?_eq_of_attends? {task : EngineTask} {a : Attendance} {answer : Answer}
    (h : task.attends? = some a) :
    (if answer.succeeds then task.calling? else none) =
      if a.part = .sender ∧ engine.verdict? options task answer = some .delivered
      then some a.message else none := by
  obtain ⟨hpart, value, retrying, rfl⟩ | ⟨hpart, rfl⟩ := EngineTask.eq_of_attends? h
  · have hverdict : engine.verdict? options
        (.sending a.sync a.key value a.flight retrying) answer = some .delivered ↔
        (∃ backoff, retrying = .trying backoff) ∧ answer.succeeds := by
      rw [← @Retrying.step_eq_ended_none_iff options]
      rcases hstep : (retrying.step options answer).1 with _ | _ | (_ | _) <;>
        simp [verdict?, hstep, Landing.ofFailure?]
    by_cases hd : a.part = .sender ∧ engine.verdict? options
        (.sending a.sync a.key value a.flight retrying) answer = some .delivered
    · rw [if_pos hd]
      obtain ⟨⟨backoff, rfl⟩, hsucceeds⟩ := hverdict.mp hd.2
      rw [if_pos hsucceeds]
      rfl
    · rw [if_neg hd]
      -- a call that does well would have been the end of its retried call
      cases retrying with
      | trying backoff =>
        have hfails : ¬ answer.succeeds := fun hs =>
          hd ⟨hpart, hverdict.mpr ⟨⟨backoff, rfl⟩, hs⟩⟩
        rw [if_neg hfails]
      | pausing backoff => simp [EngineTask.calling?]
  · simp [hpart, EngineTask.calling?]

theorem verdict?_of_waiter {task : EngineTask} {a : Attendance} {answer : Answer}
    (h : task.attends? = some a) (hwaiter : a.part = .waiter) :
    engine.verdict? options task answer = engine.landing? a.flight := by
  obtain ⟨hsender, -⟩ | ⟨-, rfl⟩ := EngineTask.eq_of_attends? h
  · rw [hsender] at hwaiter
    cases hwaiter
  · rfl

/-- Without a verdict, a task goes on attending its flight, and no table changes. -/
theorem resume_of_no_verdict {task : EngineTask} {a : Attendance} {answer : Answer}
    (h : task.attends? = some a) (hv : engine.verdict? setup.retry task answer = none) :
    (engine.resume setup task answer).engine = engine ∧
      (engine.resume setup task answer).progress.attends? = some a := by
  obtain ⟨-, value, retrying, rfl⟩ | ⟨-, rfl⟩ := EngineTask.eq_of_attends? h
  · rcases hstep : retrying.step setup.retry answer with ⟨step, entries⟩
    simp only [resume, hstep]
    cases step with
    | attempt backoff => exact ⟨rfl, h⟩
    | pause seconds backoff => exact ⟨rfl, h⟩
    | ended failure? => simp [verdict?, hstep] at hv
  · have hlanding : engine.landing? a.flight = none := hv
    simp only [resume, hlanding]
    exact ⟨rfl, h⟩

/-- With a verdict, a task leaves its flight and walks on through its messages: a sender has made
the flight land, and the result of either of them is settled. -/
theorem resume_of_verdict {task : EngineTask} {a : Attendance} {answer : Answer}
    {landing : Landing} (h : task.attends? = some a)
    (hv : engine.verdict? setup.retry task answer = some landing) :
    ∃ entries, engine.resume setup task answer =
      ((engine.conclude a landing).proceedMessages setup.retry (a.settled landing)
        a.sync.messages).after entries := by
  obtain ⟨part, sync, key, flight⟩ := a
  obtain ⟨hpart, value, retrying, rfl⟩ | ⟨hpart, rfl⟩ := EngineTask.eq_of_attends? h
  · cases hpart
    rcases hstep : retrying.step setup.retry answer with ⟨step, entries⟩
    cases step with
    | attempt backoff => simp [verdict?, hstep] at hv
    | pause seconds backoff => simp [verdict?, hstep] at hv
    | ended failure? =>
      have hlanding : Landing.ofFailure? failure? = landing := by simpa [verdict?, hstep] using hv
      subst hlanding
      -- the reports of the attempt stand in front of those of the send
      simp only [resume, hstep, continueCall]
      cases failure? with
      | none => exact ⟨_, Turn.after_after _ _ _⟩
      | some failure => exact ⟨_, Turn.after_after _ _ _⟩
  · cases hpart
    have hlanding : engine.landing? flight = some landing := hv
    refine ⟨[], ?_⟩
    rw [resume, hlanding]
    cases landing <;> rfl

theorem opens_resume_of_verdict {task : EngineTask} {a : Attendance} {answer : Answer}
    {landing : Landing} (h : task.attends? = some a)
    (hv : engine.verdict? setup.retry task answer = some landing) :
    (engine.conclude a landing).Opens setup.retry (engine.resume setup task answer) := by
  obtain ⟨entries, hturn⟩ := resume_of_verdict h hv
  rw [hturn]
  exact opens_proceedMessages _ _

/-- A sender that is cancelled makes its flight land as failed; any other task leaves the engine as
it is. -/
theorem cancel_eq (task : EngineTask) :
    engine.cancel task = match task.attends? with
      | some a => engine.conclude a (.failed cancelledMessage)
      | none => engine := by
  cases task <;> rfl

end Engine

end Automation
