import Automation.Proofs.Retry.Delays
import Automation.Proofs.Sync.Workload
import Mathlib.Logic.Function.Iterate
import Mathlib.Order.Bounds.Basic

/-!
# A task alone

A task that has the engine for itself waits for nothing but the outside. A script says how each of
its calls ends; its tenant is found, and its pauses pass. Then its run is determined, and a retried
call goes from attempt to attempt until the script or the limit settles it.

## Main definitions

* `World` — what a task alone meets.
* `Solo`, `Solo.step`, `Solo.Reaches` — a workload of one task with the calls that it has made.
* `World.Settles` — whether an attempt of a retried call is the last one that is made.
* `World.Resolves`, `World.client` — the client of a task, if it can have one.
* `Engine.Retries` — a task of an engine retries a call, then goes on as given.

## Main statements

* `Solo.start_reaches` — a job gets its client without a call.
* `Engine.Retries.reaches_of_isLeast` — a retried call makes as many attempts as it takes to settle
  it, and goes on with the outcome of the last one.
* `Engine.Retries.exists_reaches` — a retried call that nothing settles is tried without end.
-/

namespace Automation

/-- Whether a request is a call, whose end the outside decides. -/
def Request.isCall : Request → Bool
  | .call .. | .deliver .. | .handle .. => true
  | .lookup _ | .close _ | .pause _ | .landing _ | .storage | .applications _ => false

/-- What a task alone meets: how its engine is set up, the configuration of its tenant, and the
failure of each call, if it fails, by its number from one on. -/
structure World where
  setup : EngineSetup
  tenant : Tenant
  outcome : Nat → Option Failure

/-- How the wait for a request ends, after as many calls as given. -/
def World.answer (world : World) (made : Nat) (request : Request) : Answer :=
  if request.isCall then
    match world.outcome (made + 1) with
    | none => .done
    | some failure => .failed failure
  else
    match request with
    | .lookup _ => .found world.tenant
    | _ => .done

/-- Whether an attempt settles a retried call in front of which calls were made, as many as given:
it succeeds, or no other is allowed. -/
def World.Settles (world : World) (made attempt : Nat) : Prop :=
  world.outcome (made + attempt) = none ∨ world.setup.retry.isLast attempt = true

/-- A job for a tenant can have its client: it is pooled, or nothing is in the way of making it. -/
def World.Resolves (world : World) (engine : Engine) (tenantId : String) : Prop :=
  (engine.pool.lookup tenantId).isSome = true ∨ world.setup.obstacle world.tenant = none

/-- The client of a job alone: the pooled one of its tenant, or a new one. -/
def World.client (world : World) (engine : Engine) (tenantId : String) : Client :=
  (engine.pool.lookup tenantId).getD
    ⟨engine.created + 1, world.tenant.id, world.tenant.messaging⟩

/-- A workload of one task, with the calls that the task has made. -/
structure Solo where
  load : Workload
  calls : List Request

namespace Solo

/-- A job that is given to an engine which has no other task. -/
def start (world : World) (engine : Engine) (job : Job) : Solo :=
  ⟨(Workload.mk engine []).step world.setup (.start job), []⟩

/-- The next turn of the task, if it waits. -/
def step (world : World) (solo : Solo) : Solo :=
  match solo.load.tasks.head? with
  | some (.reached (.waiting _ request)) =>
    ⟨solo.load.step world.setup (.resume 0 (world.answer solo.calls.length request)),
      solo.calls ++ if request.isCall then [request] else []⟩
  | _ => solo

/-- From one point of a run the task comes to another one. -/
def Reaches (world : World) (solo later : Solo) : Prop := ∃ n, (step world)^[n] solo = later

/-- The task of a turn, with the calls that it has made. -/
def ofTurn (turn : Turn) (calls : List Request) : Solo :=
  ⟨⟨turn.engine, [.reached turn.progress]⟩, calls⟩

variable {world : World} {solo later last : Solo} {engine : Engine} {task : EngineTask}
  {calls : List Request}

@[simp] theorem ofTurn_after (entries : List LogEntry) (turn : Turn) (calls : List Request) :
    ofTurn (turn.after entries) calls = ofTurn turn calls := rfl

@[simp] theorem calls_ofTurn (turn : Turn) (calls : List Request) :
    (ofTurn turn calls).calls = calls := rfl

theorem start_eq (world : World) (engine : Engine) (job : Job) :
    start world engine job = ofTurn (engine.start world.setup job) [] := rfl

theorem step_wait_of_isCall {request : Request} (h : request.isCall = true) :
    step world (ofTurn (engine.wait task request) calls) =
      ofTurn (engine.resume world.setup task (world.answer calls.length request))
        (calls ++ [request]) := by
  simp only [step, ofTurn, Engine.wait, List.head?_cons, h, if_true]
  rfl

theorem step_wait_of_not_isCall {request : Request} (h : request.isCall = false) :
    step world (ofTurn (engine.wait task request) calls) =
      ofTurn (engine.resume world.setup task (world.answer calls.length request)) calls := by
  simp only [step, ofTurn, Engine.wait, List.head?_cons, h, Bool.false_eq_true, if_false,
    List.append_nil]
  rfl

namespace Reaches

theorem refl (solo : Solo) : Reaches world solo solo := ⟨0, rfl⟩

theorem single (h : step world solo = later) : Reaches world solo later := ⟨1, h⟩

theorem trans (h : Reaches world solo later) (h' : Reaches world later last) :
    Reaches world solo last := by
  obtain ⟨m, rfl⟩ := h
  obtain ⟨n, rfl⟩ := h'
  exact ⟨n + m, Function.iterate_add_apply _ n m solo⟩

end Reaches

/-- A job alone comes to have its client without a call; of the engine, only the pool and the count of
clients change. -/
theorem start_reaches_pooled {job : Job} (h : world.Resolves engine job.tenantId) :
    ∃ pool created, (start world engine job).Reaches world
      (ofTurn ({ engine with pool, created }.proceed world.setup.retry
        (world.client engine job.tenantId) job) []) := by
  rw [start_eq]
  cases hpool : engine.pool.lookup job.tenantId with
  | some client =>
    refine ⟨engine.pool, engine.created, ?_⟩
    have hclient : world.client engine job.tenantId = client := by simp [World.client, hpool]
    rw [hclient]
    cases job <;> simp only [Engine.start, hpool] <;> exact .refl _
  | none =>
    have hobstacle : world.setup.obstacle world.tenant = none := h.resolve_left (by simp [hpool])
    let own : Client := ⟨engine.created + 1, world.tenant.id, world.tenant.messaging⟩
    have hclient : world.client engine job.tenantId = own := by simp [World.client, hpool, own]
    refine ⟨engine.pool ++ [(job.tenantId, own)], engine.created + 1, ?_⟩
    have hwait : ofTurn (engine.start world.setup job) [] =
        ofTurn (engine.wait (.resolving job) (.lookup job.tenantId)) [] := by
      cases job <;> simp only [Engine.start, hpool, ofTurn_after]
    rw [hwait, hclient]
    refine .single ?_
    rw [step_wait_of_not_isCall rfl]
    have hanswer : world.answer 0 (.lookup job.tenantId) = .found world.tenant := rfl
    simp only [List.length_nil, hanswer, Engine.resume, Engine.engage, hobstacle, hpool]
    rfl

/-- A job alone comes to have its client without a call, and without a change of the messages. -/
theorem start_reaches {job : Job} (h : world.Resolves engine job.tenantId) :
    ∃ pooled : Engine, (start world engine job).Reaches world
      (ofTurn (pooled.proceed world.setup.retry (world.client engine job.tenantId) job) []) ∧
      pooled.inFlight = engine.inFlight ∧ pooled.processed = engine.processed := by
  obtain ⟨pool, created, hreaches⟩ := start_reaches_pooled h
  exact ⟨{ engine with pool, created }, hreaches, rfl, rfl⟩

/-! ## The calls of a run -/

theorem isPrefix_calls_step (world : World) (solo : Solo) :
    solo.calls <+: (step world solo).calls := by
  unfold step
  split
  · exact List.prefix_append _ _
  · exact List.prefix_rfl

theorem isPrefix_calls_iterate (world : World) (solo : Solo) {m n : Nat} (h : m ≤ n) :
    ((step world)^[m] solo).calls <+: ((step world)^[n] solo).calls := by
  induction n, h using Nat.le_induction with
  | base => exact List.prefix_rfl
  | succ n _ ih =>
    rw [Function.iterate_succ_apply']
    exact ih.trans (isPrefix_calls_step _ _)

theorem step_of_finished {result : Except Failure JobResult}
    (h : last.load.tasks = [.reached (.finished result)]) : step world last = last := by
  simp [step, h]

/-- A run makes no other calls than those that it has made when its task is finished. -/
theorem Reaches.isPrefix_calls (h : Reaches world solo last) {result : Except Failure JobResult}
    (hfinished : last.load.tasks = [.reached (.finished result)]) (n : Nat) :
    ((step world)^[n] solo).calls <+: last.calls := by
  obtain ⟨m, rfl⟩ := h
  rcases Nat.le_total n m with hle | hle
  · exact isPrefix_calls_iterate world solo hle
  · obtain ⟨more, rfl⟩ := Nat.exists_eq_add_of_le' hle
    have hrests : (step world)^[more + m] solo = (step world)^[m] solo :=
      (Function.iterate_add_apply _ more m solo).trans
        (Function.iterate_fixed (step_of_finished hfinished) more)
    exact hrests ▸ List.prefix_rfl

end Solo

/-! ## Retried calls -/

/-- In an engine, a task retries a call and goes on as given when the call has ended, up to
reports. -/
def Engine.Retries (setup : EngineSetup) (engine : Engine) (task : Retrying → EngineTask)
    (request : Request) (onEnd : Option Failure → Turn) : Prop :=
  ∀ retrying answer, ∃ entries, engine.resume setup (task retrying) answer =
    (engine.continueCall task request (retrying.step setup.retry answer).1 onEnd).after entries

namespace Engine.Retries

open Solo

variable {world : World} {engine : Engine} {task : Retrying → EngineTask} {request : Request}
  {onEnd : Option Failure → Turn} {backoff : Backoff} {calls : List Request} {made : Nat}

/-- The step of a retried call with the answer to what its task waits for. -/
theorem ofTurn_resume (h : engine.Retries world.setup task request onEnd) (retrying : Retrying)
    (answer : Answer) (calls : List Request) :
    ofTurn (engine.resume world.setup (task retrying) answer) calls =
      ofTurn (engine.continueCall task request (retrying.step world.setup.retry answer).1 onEnd)
        calls := by
  obtain ⟨entries, hturn⟩ := h retrying answer
  rw [hturn, ofTurn_after]

/-- An attempt that does not settle the call is followed by another. -/
theorem exists_reaches_next (h : engine.Retries world.setup task request onEnd)
    (hcall : request.isCall = true) (hcomputes : world.setup.retry.Computes)
    (hreached : backoff.Reached world.setup.retry)
    (hmade : calls.length + 1 = made + backoff.attempt)
    (hunsettled : ¬ world.Settles made backoff.attempt) :
    ∃ following : Backoff, following.Reached world.setup.retry ∧
      following.attempt = backoff.attempt + 1 ∧
      Reaches world (ofTurn (engine.wait (task (.trying backoff)) request) calls)
        (ofTurn (engine.wait (task (.trying following)) request) (calls ++ [request])) := by
  obtain ⟨hfails, hleft⟩ := not_or.mp hunsettled
  obtain ⟨failure, hfailure⟩ := Option.ne_none_iff_exists'.mp hfails
  have hleft : world.setup.retry.isLast backoff.attempt = false := by simpa using hleft
  have hanswer : world.answer calls.length request = .failed failure := by
    simp only [World.answer, hcall, if_true, hmade, hfailure]
  obtain ⟨seconds, hpause⟩ := Retrying.step_trying_failed hcomputes hreached hleft failure
  obtain ⟨following, hfollowing, hattempt, hnext⟩ :=
    Retrying.step_pausing hcomputes hreached hleft .done
  let paused := ofTurn (engine.wait (task (.pausing backoff)) (.pause seconds)) (calls ++ [request])
  have hpaused : step world (ofTurn (engine.wait (task (.trying backoff)) request) calls) =
      paused := by
    rw [step_wait_of_isCall hcall, hanswer, h.ofTurn_resume, hpause]
    rfl
  have hfollows : step world paused =
      ofTurn (engine.wait (task (.trying following)) request) (calls ++ [request]) := by
    have hanswer : world.answer (calls ++ [request]).length (.pause seconds) = .done := rfl
    rw [step_wait_of_not_isCall rfl, hanswer, h.ofTurn_resume, hnext]
    rfl
  exact ⟨following, hfollowing, hattempt, (Reaches.single hpaused).trans (.single hfollows)⟩

/-- An attempt that settles the call is the end of it. -/
theorem reaches_end (h : engine.Retries world.setup task request onEnd)
    (hcall : request.isCall = true) (hmade : calls.length + 1 = made + backoff.attempt)
    (hsettled : world.Settles made backoff.attempt) :
    Reaches world (ofTurn (engine.wait (task (.trying backoff)) request) calls)
      (ofTurn (onEnd (world.outcome (made + backoff.attempt))) (calls ++ [request])) := by
  refine .single ?_
  rw [step_wait_of_isCall hcall, h.ofTurn_resume]
  cases houtcome : world.outcome (made + backoff.attempt) with
  | none =>
    have hanswer : world.answer calls.length request = .done := by
      simp only [World.answer, hcall, if_true, hmade, houtcome]
    rw [hanswer]
    rfl
  | some failure =>
    have hanswer : world.answer calls.length request = .failed failure := by
      simp only [World.answer, hcall, if_true, hmade, houtcome]
    have hlast := hsettled.resolve_left (by simp [houtcome])
    rw [hanswer, Retrying.step_trying_last hlast]
    rfl

/-- As long as no attempt settles it, a retried call comes to the attempt that follows. -/
theorem exists_reaches_trying (h : engine.Retries world.setup task request onEnd)
    (hcall : request.isCall = true) (hcomputes : world.setup.retry.Computes)
    (hfirst : Backoff.first world.setup.retry = .ok backoff) {failed : Nat}
    (hfailed : ∀ attempt, 0 < attempt → attempt ≤ failed →
      ¬ world.Settles calls.length attempt) :
    ∃ following : Backoff, following.Reached world.setup.retry ∧
      following.attempt = failed + 1 ∧
      Reaches world (ofTurn (engine.wait (task (.trying backoff)) request) calls)
        (ofTurn (engine.wait (task (.trying following)) request)
          (calls ++ List.replicate failed request)) := by
  induction failed with
  | zero =>
    refine ⟨backoff, .first hfirst, Backoff.attempt_first hfirst, ?_⟩
    simpa using Reaches.refl _
  | succ failed ih =>
    obtain ⟨current, hreached, hattempt, hcurrent⟩ :=
      ih fun attempt hpos hle => hfailed attempt hpos (Nat.le_succ_of_le hle)
    have hunsettled := hfailed (failed + 1) failed.succ_pos le_rfl
    have hmade : (calls ++ List.replicate failed request).length + 1 =
        calls.length + current.attempt := by simp [hattempt, Nat.add_assoc]
    obtain ⟨following, hfollowing, hsucc, hnext⟩ :=
      h.exists_reaches_next hcall hcomputes hreached hmade (by rwa [hattempt])
    refine ⟨following, hfollowing, by omega, ?_⟩
    rw [List.replicate_succ', ← List.append_assoc]
    exact hcurrent.trans hnext

/-- A retried call makes as many attempts as it takes to settle it, and goes on with the outcome of
the last one. -/
theorem reaches_of_isLeast (h : engine.Retries world.setup task request onEnd)
    (hcall : request.isCall = true) (hcomputes : world.setup.retry.Computes)
    (hfirst : Backoff.first world.setup.retry = .ok backoff) {attempts : Nat}
    (hleast : IsLeast {attempt | 0 < attempt ∧ world.Settles calls.length attempt} attempts) :
    Reaches world (ofTurn (engine.wait (task (.trying backoff)) request) calls)
      (ofTurn (onEnd (world.outcome (calls.length + attempts)))
        (calls ++ List.replicate attempts request)) := by
  obtain ⟨⟨hpos, hsettles⟩, hlower⟩ := hleast
  obtain ⟨failed, rfl⟩ := Nat.exists_eq_add_of_le' hpos
  have hfailed : ∀ attempt, 0 < attempt → attempt ≤ failed →
      ¬ world.Settles calls.length attempt :=
    fun attempt hattempt hle hsettled => (hlower ⟨hattempt, hsettled⟩).not_gt (by omega)
  obtain ⟨current, -, hattempt, hcurrent⟩ :=
    h.exists_reaches_trying hcall hcomputes hfirst hfailed
  have hmade : (calls ++ List.replicate failed request).length + 1 =
      calls.length + current.attempt := by simp [hattempt, Nat.add_assoc]
  have hend := h.reaches_end hcall hmade (by rwa [hattempt])
  rw [List.replicate_succ', ← List.append_assoc, ← hattempt]
  exact hcurrent.trans hend

/-- A retried call that nothing settles is tried without end. -/
theorem exists_reaches (h : engine.Retries world.setup task request onEnd)
    (hcall : request.isCall = true) (hcomputes : world.setup.retry.Computes)
    (hfirst : Backoff.first world.setup.retry = .ok backoff)
    (hendless : ∀ attempt, 0 < attempt → ¬ world.Settles calls.length attempt) (attempts : Nat) :
    ∃ later, Reaches world (ofTurn (engine.wait (task (.trying backoff)) request) calls) later ∧
      later.calls = calls ++ List.replicate attempts request := by
  obtain ⟨following, -, -, hreaches⟩ := h.exists_reaches_trying hcall hcomputes hfirst
    fun attempt hpos (_ : attempt ≤ attempts) => hendless attempt hpos
  exact ⟨_, hreaches, rfl⟩

end Engine.Retries

end Automation
