import Automation.Proofs.Retry.Delays
import Automation.Proofs.Sync.Clients

/-!
# How many turns a task has left

When only so many attempts are allowed, a task comes to its end: every turn takes it nearer, but for
those in which it looks in vain whether the message of another task has landed.

## Main definitions

* `RetryOptions.StopsAt` — as many attempts as given are enough for any call.
* `EngineTask.turnsLeft`, `Job.turns` — how many turns a task has left at most, and how many a job
  takes at most.
* `EngineTask.idles` — whether a task looks in vain for the landing of a message.

## Main statements

* `Engine.turnsLeft_start`, `Engine.turnsLeft_resume` — every turn takes a task nearer to its end.
-/

namespace Automation

/-- No attempt comes after as many as given. -/
def RetryOptions.StopsAt (options : RetryOptions) (limit : Nat) : Prop :=
  ∀ attempt, limit ≤ attempt → options.isLast attempt = true

/-- The turns that a retried call takes at most. -/
def callTurns (limit : Nat) : Nat := 2 * limit + 1

/-- The turns that a retried call has left at most. -/
def Retrying.turnsLeft (limit : Nat) : Retrying → Nat
  | .trying backoff => 2 * (limit - backoff.attempt) + 1
  | .pausing backoff => 2 * max (limit - backoff.attempt) 1

/-- The calls that a job makes at most. -/
def Job.calls : Job → Nat
  | .sync _ _ plan => plan.messages.length + plan.changes.length
  | .actions _ _ asked => asked.length
  | .client _ => 0

/-- The turns that a task has left at most. -/
def EngineTask.turnsLeft (limit : Nat) : EngineTask → Nat
  | .resolving job => job.calls * callTurns limit + 2
  | .closingSurplus job _ => job.calls * callTurns limit + 1
  | .sending sync _ _ _ retrying =>
    retrying.turnsLeft limit + (sync.messages.length + sync.changes.length) * callTurns limit
  | .awaiting sync _ _ =>
    (sync.messages.length + sync.changes.length) * callTurns limit + 1
  | .changing sync _ retrying =>
    retrying.turnsLeft limit + sync.changes.length * callTurns limit
  | .acting under _ _ retrying =>
    retrying.turnsLeft limit + under.actions.length * callTurns limit
  | .handling under _ _ => under.actions.length * callTurns limit + 1
  | .closing _ rest => rest.length + 1

/-- The turns that are left at most. -/
def Progress.turnsLeft (limit : Nat) : Progress → Nat
  | .waiting task _ => task.turnsLeft limit
  | .finished _ => 0

/-- The turns that a job takes at most. -/
def Job.turns (limit : Nat) (job : Job) : Nat := job.calls * callTurns limit + 3

/-- Whether a task looks for the landing of a message that is still in flight. -/
def EngineTask.idles (engine : Engine) : EngineTask → Bool
  | .awaiting _ _ flight => (engine.landing? flight).isNone
  | .resolving _ | .closingSurplus .. | .sending .. | .changing .. | .acting .. | .handling ..
  | .closing .. => false

variable {options : RetryOptions} {setup : EngineSetup} {engine : Engine} {limit : Nat}

/-! ## Retried calls -/

theorem Retrying.turnsLeft_first {backoff : Backoff} (h : Backoff.first options = .ok backoff) :
    (trying backoff).turnsLeft limit ≤ callTurns limit := by
  rw [turnsLeft, callTurns, Backoff.attempt_first h]
  omega

theorem Retrying.turnsLeft_pos (retrying : Retrying) : 0 < retrying.turnsLeft limit := by
  cases retrying with
  | trying backoff => exact Nat.succ_pos _
  | pausing backoff => exact Nat.mul_pos Nat.two_pos (Nat.one_pos.trans_le (Nat.le_max_right _ _))

/-- A task that waits has a turn left. -/
theorem EngineTask.turnsLeft_pos (task : EngineTask) : 0 < task.turnsLeft limit := by
  cases task with
  | resolving _ | closingSurplus _ _ | awaiting _ _ _ | handling _ _ _ | closing _ _ =>
    exact Nat.succ_pos _
  | sending _ _ _ _ retrying | changing _ _ retrying | acting _ _ _ retrying =>
    exact Nat.add_pos_left retrying.turnsLeft_pos _

/-- Another attempt follows a pause. -/
theorem Retrying.of_step_attempt {retrying : Retrying} {answer : Answer} {following : Backoff}
    (h : (retrying.step options answer).1 = .attempt following) :
    ∃ backoff, retrying = .pausing backoff ∧ following.attempt = backoff.attempt + 1 := by
  cases retrying with
  | trying backoff =>
    exfalso
    cases answer with
    | done => cases h
    | found tenant => cases h
    | failed failure =>
      rw [step] at h
      split at h <;> cases h
  | pausing backoff =>
    refine ⟨backoff, rfl, ?_⟩
    rw [step] at h
    cases hnext : backoff.next options with
    | error fault =>
      rw [hnext] at h
      cases h
    | ok next =>
      rw [hnext] at h
      cases h
      exact Backoff.attempt_next hnext

/-- A pause follows an attempt that is not the last one. -/
theorem Retrying.of_step_pause {retrying : Retrying} {answer : Answer} {seconds : Binary64}
    {backoff : Backoff} (h : (retrying.step options answer).1 = .pause seconds backoff) :
    retrying = .trying backoff ∧ options.isLast backoff.attempt = false := by
  cases retrying with
  | pausing before =>
    rw [step] at h
    split at h <;> cases h
  | trying before =>
    cases answer with
    | done => cases h
    | found tenant => cases h
    | failed failure =>
      cases hlast : options.isLast before.attempt with
      | true =>
        rw [step_trying_last hlast] at h
        cases h
      | false =>
        rw [step] at h
        split at h
        · cases h
        · cases h
        · cases h
          exact ⟨rfl, hlast⟩

/-- A call that goes on has fewer turns left, and after its end others are left at most. -/
theorem Engine.turnsLeft_continueCall (hlimit : options.StopsAt limit) {retrying : Retrying}
    {answer : Answer} {task : Retrying → EngineTask} {request : Request}
    {onEnd : Option Failure → Turn} {others : Nat}
    (htask : ∀ retrying, (task retrying).turnsLeft limit = retrying.turnsLeft limit + others)
    (hend : ∀ failure?, (onEnd failure?).progress.turnsLeft limit ≤ others) :
    (engine.continueCall task request (retrying.step options answer).1 onEnd).progress.turnsLeft
      limit < retrying.turnsLeft limit + others := by
  cases hstep : (retrying.step options answer).1 with
  | attempt following =>
    obtain ⟨backoff, rfl, hattempt⟩ := Retrying.of_step_attempt hstep
    refine (htask _).trans_lt (Nat.add_lt_add_right ?_ _)
    rw [Retrying.turnsLeft, Retrying.turnsLeft, hattempt]
    omega
  | pause seconds backoff =>
    obtain ⟨rfl, hlast⟩ := Retrying.of_step_pause hstep
    refine (htask _).trans_lt (Nat.add_lt_add_right ?_ _)
    have hlt : backoff.attempt < limit := by
      by_contra hle
      rw [hlimit _ (Nat.not_lt.mp hle)] at hlast
      cases hlast
    rw [Retrying.turnsLeft, Retrying.turnsLeft]
    omega
  | ended failure? =>
    exact (hend failure?).trans_lt (Nat.lt_add_of_pos_left retrying.turnsLeft_pos)

/-! ## Turns -/

namespace Engine

theorem turnsLeft_proceedChanges (sync : Syncing) (changes : List Change) :
    (engine.proceedChanges options sync changes).progress.turnsLeft limit ≤
      changes.length * callTurns limit := by
  induction changes generalizing sync with
  | nil => exact Nat.zero_le _
  | cons change rest ih =>
    rw [proceedChanges, List.length_cons, Nat.succ_mul]
    split
    next backoff hfirst =>
      have hcall : (Retrying.trying backoff).turnsLeft limit ≤ callTurns limit :=
        Retrying.turnsLeft_first hfirst
      change (Retrying.trying backoff).turnsLeft limit + rest.length * callTurns limit ≤ _
      omega
    next => exact (ih _).trans (Nat.le_add_right _ _)

theorem turnsLeft_proceedMessages (sync : Syncing) (messages : List (String × Json)) :
    (engine.proceedMessages options sync messages).progress.turnsLeft limit ≤
      (messages.length + sync.changes.length) * callTurns limit := by
  induction messages generalizing engine sync with
  | nil =>
    rw [List.length_nil, Nat.zero_add]
    exact turnsLeft_proceedChanges sync sync.changes
  | cons message rest ih =>
    obtain ⟨key, value⟩ := message
    have hsplit : ((key, value) :: rest).length + sync.changes.length =
        rest.length + sync.changes.length + 1 := by
      rw [List.length_cons]
      omega
    rw [proceedMessages, hsplit, Nat.succ_mul]
    split
    next flight _ =>
      change (rest.length + sync.changes.length) * callTurns limit + 1 ≤ _
      exact Nat.add_le_add_left (Nat.succ_pos _) _
    next =>
      split
      next => exact (ih sync).trans (Nat.le_add_right _ _)
      next =>
        cases hfirst : Backoff.first options with
        | ok backoff =>
          have hcall : (Retrying.trying backoff).turnsLeft limit ≤ callTurns limit :=
            Retrying.turnsLeft_first hfirst
          change (Retrying.trying backoff).turnsLeft limit +
            (rest.length + sync.changes.length) * callTurns limit ≤ _
          omega
        | error fault => exact (ih _).trans (Nat.le_add_right _ _)

theorem turnsLeft_proceedActions (acting : Acting) (actions : List Action) :
    (engine.proceedActions options acting actions).progress.turnsLeft limit ≤
      actions.length * callTurns limit := by
  induction actions with
  | nil => exact Nat.zero_le _
  | cons action rest ih =>
    have hrest := ih.trans (Nat.le_add_right _ (callTurns limit))
    rw [proceedActions, List.length_cons, Nat.succ_mul]
    split
    next => exact hrest
    next kind _ =>
      dsimp only [Turn.after]
      split
      next =>
        change rest.length * callTurns limit + 1 ≤ _
        exact Nat.add_le_add_left (Nat.succ_pos _) _
      next =>
        split
        next => exact hrest
        next => exact hrest
        next outbound _ =>
          split
          next backoff hfirst =>
            have hcall : (Retrying.trying backoff).turnsLeft limit ≤ callTurns limit :=
              Retrying.turnsLeft_first hfirst
            change (Retrying.trying backoff).turnsLeft limit + rest.length * callTurns limit ≤ _
            omega
          next => exact hrest

theorem turnsLeft_proceed (client : Client) (job : Job) :
    (engine.proceed options client job).progress.turnsLeft limit ≤
      job.calls * callTurns limit := by
  cases job with
  | sync tenantId conversation plan => exact turnsLeft_proceedMessages _ _
  | actions tenantId conversation asked => exact turnsLeft_proceedActions _ _
  | client tenantId => exact Nat.zero_le _

/-- A job has fewer turns left after its first one than it takes at most. -/
theorem turnsLeft_start (job : Job) :
    (engine.start setup job).progress.turnsLeft limit < job.turns limit := by
  cases hpool : engine.pool.lookup job.tenantId with
  | none =>
    obtain ⟨entries, hturn⟩ := @start_of_absent setup _ _ hpool
    rw [hturn]
    exact Nat.lt_succ_self _
  | some client =>
    obtain ⟨entries, hturn⟩ := @start_of_pooled setup _ _ _ hpool
    rw [hturn]
    exact (turnsLeft_proceed client job).trans_lt (by rw [Job.turns]; omega)

theorem turnsLeft_engage (job : Job) (tenant : Tenant) :
    (engine.engage setup job tenant).progress.turnsLeft limit ≤
      job.calls * callTurns limit + 1 := by
  cases hobstacle : setup.obstacle tenant with
  | some failure =>
    rw [engage_of_obstacle hobstacle]
    exact Nat.zero_le _
  | none =>
    cases hpool : engine.pool.lookup job.tenantId with
    | some pooled =>
      rw [engage_of_pooled hobstacle hpool]
      exact le_rfl
    | none =>
      obtain ⟨entries, hturn⟩ := engage_of_absent hobstacle hpool
      rw [hturn]
      exact (turnsLeft_proceed _ job).trans (Nat.le_succ _)

/-- A task has fewer turns left after one, unless it waits for a tenant or for a message in vain. -/
theorem turnsLeft_resume (hlimit : setup.retry.StopsAt limit) {task : EngineTask} {answer : Answer}
    (hlookup : ∀ job, task = .resolving job → answer ≠ .done) (hidle : task.idles engine = false) :
    (engine.resume setup task answer).progress.turnsLeft limit < task.turnsLeft limit := by
  cases task with
  | resolving job =>
    cases answer with
    | done => exact absurd rfl (hlookup job rfl)
    | failed failure => exact Nat.succ_pos _
    | found tenant => exact Nat.lt_succ_of_le (turnsLeft_engage job tenant)
  | closingSurplus job client => exact Nat.lt_succ_of_le (turnsLeft_proceed client job)
  | sending sync key value flight retrying =>
    refine turnsLeft_continueCall hlimit (fun _ => rfl) fun failure? => ?_
    cases failure? with
    | none => exact turnsLeft_proceedMessages _ _
    | some failure => exact turnsLeft_proceedMessages _ _
  | awaiting sync key flight =>
    rw [resume]
    cases hlanding : engine.landing? flight with
    | none =>
      rw [EngineTask.idles, hlanding] at hidle
      cases hidle
    | some landing =>
      cases landing with
      | delivered => exact Nat.lt_succ_of_le (turnsLeft_proceedMessages _ _)
      | failed message => exact Nat.lt_succ_of_le (turnsLeft_proceedMessages _ _)
  | changing sync change retrying =>
    refine turnsLeft_continueCall hlimit (fun _ => rfl) fun failure? => ?_
    cases failure? with
    | none => exact turnsLeft_proceedChanges _ _
    | some failure => exact turnsLeft_proceedChanges _ _
  | acting under action outbound retrying =>
    exact turnsLeft_continueCall hlimit (fun _ => rfl) fun failure? => turnsLeft_proceedActions _ _
  | handling under action kind => exact Nat.lt_succ_of_le (turnsLeft_proceedActions _ _)
  | closing current rest =>
    cases rest with
    | nil => exact Nat.succ_pos _
    | cons next rest => exact Nat.lt_succ_self _

/-- A task that waits for a message in vain goes on waiting. -/
theorem resume_of_idles {task : EngineTask} (h : task.idles engine = true) (answer : Answer) :
    ∃ sync key flight, task = .awaiting sync key flight ∧
      engine.resume setup task answer = engine.wait task (.landing flight) := by
  cases task with
  | awaiting sync key flight =>
    refine ⟨sync, key, flight, rfl, ?_⟩
    rw [resume, Option.isNone_iff_eq_none.mp h]
  | resolving _ | closingSurplus _ _ | sending _ _ _ _ _ | changing _ _ _ | acting _ _ _ _
  | handling _ _ _ | closing _ _ => cases h

end Engine

end Automation
