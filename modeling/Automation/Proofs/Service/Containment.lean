import Automation.Proofs.Service.Failures
import Automation.Proofs.Service.Tasks
import Automation.Proofs.Sync.Progress

/-!
# Failed jobs

A job of the engine fails when the tenant is unknown or when no client can be made for it, and for
no other reason. Then it has looked up the tenant and done nothing else. Whatever goes wrong once a
job has its client is taken into its result, and the job comes to its end all the same.

## Main definitions

* `ServiceStep.task?` — the task that has its turn with a step.
* `Deployment.Untouched` — a task has looked up its tenant at most, and has changed nothing.
* `Deployment.Stands` — where the task of a job stands, and what it has done so far.
* `Deployment.turnsTaken`, `Stage.turnsLeft` — how many turns a task has had, but for those in which
  it looks in vain for the landing of a message, and how many a job has left.

## Main statements

* `Deployment.stands_start`, `Deployment.stands_resume` — where a job comes with its turns.
* `Deployment.jobs_run` — what holds of all jobs in every run.
-/

namespace Automation

/-- The task that has its turn with a step. -/
def ServiceStep.task? (s : ServiceStep) : Option Nat := (s.before.turn? s.move).map Prod.fst

/-- What a task asks for at the end of its turn. -/
def ServiceStep.request? (s : ServiceStep) : Option Request :=
  (s.before.turn? s.move).bind fun entry =>
    match entry.2.2.progress with
    | .waiting _ request => some request
    | .finished _ => none

/-- The turns that a job has left at most where it stands. -/
def Stage.turnsLeft (limit : Nat) (job : Job) : Stage → Nat
  | .scheduled => job.turns limit
  | .reached (.waiting (.engine task) _) => task.turnsLeft limit
  | .reached _ | .cancelled => 0

/-- Once its tenant is found, a job looks for none any more. -/
theorem Engine.resolves?_engage {setup : EngineSetup} {engine : Engine} (job : Job)
    (tenant : Tenant) : (engine.engage setup job tenant).progress.resolves? = none := by
  cases hobstacle : setup.obstacle tenant with
  | some failure =>
    rw [engage_of_obstacle hobstacle]
    rfl
  | none =>
    cases hpool : engine.pool.lookup job.tenantId with
    | some pooled =>
      rw [engage_of_pooled hobstacle hpool]
      rfl
    | none => exact (carries_engage hobstacle hpool).equipped.resolves?

namespace Deployment

/-- Whether a task looks for the landing of a message that is still in flight. -/
def idles (site : Deployment) (id : Nat) : Bool :=
  match site.tasks[id]? with
  | some ⟨_, .reached (.waiting (.engine task) _)⟩ => task.idles site.service.engine
  | _ => false

/-- How many turns a task has had in some steps, but for those in which it has looked in vain for
the landing of a message. -/
def turnsTaken (steps : List ServiceStep) (id : Nat) : Nat :=
  steps.countP fun s => s.task? = some id && !s.before.idles id

/-- In some steps, a task has changed nothing and has asked for nothing but its tenant. -/
def Untouched (steps : List ServiceStep) (id : Nat) (tenantId : String) : Prop :=
  ∀ s ∈ steps, s.task? = some id → s.after.service = s.before.service ∧
    ∀ request, s.request? = some request → request = .lookup tenantId

/-- Where the task of a job stands, and what it has done so far: nothing has happened until the
tenant is found and a client is at hand, and it fails when there is none. -/
inductive Stands (steps : List ServiceStep) (id : Nat) (job : Job) : Stage → Prop
  | scheduled (fresh : ∀ s ∈ steps, s.task? ≠ some id) : Stands steps id job .scheduled
  | resolving (untouched : Untouched steps id job.tenantId) :
      Stands steps id job (.reached (.waiting (.engine (.resolving job)) (.lookup job.tenantId)))
  | failed (failure : Failure) (untouched : Untouched steps id job.tenantId)
      (refused : ∃ s ∈ steps, s.task? = some id ∧
        s.before.refusal? job.tenantId = some failure) :
      Stands steps id job (.reached (.finished (.error failure)))
  | engaged (task : EngineTask) (request : Request) (past : ∀ other, task ≠ .resolving other) :
      Stands steps id job (.reached (.waiting (.engine task) request))
  | ended (result : JobResult) : Stands steps id job (.reached (.finished (.ok (.job result))))
  | cancelled : Stands steps id job .cancelled

variable {site : Deployment} {steps : List ServiceStep} {move : ServiceMove} {id : Nat}
  {call : ServiceCall} {turn : ServiceTurn} {job : Job} {stage : Stage} {tenantId : String}
  {limit : Nat}

/-! ## Steps that are no turns of a task -/

theorem task?_of_turn? (h : site.turn? move = some (id, call, turn)) (after : Deployment) :
    ServiceStep.task? ⟨site, move, after⟩ = some id := by
  rw [ServiceStep.task?, h]
  rfl

theorem exists_turn?_of_task? {s : ServiceStep} (h : s.task? = some id) :
    ∃ call turn, s.before.turn? s.move = some (id, call, turn) := by
  obtain ⟨⟨other, call, turn⟩, hturn, rfl⟩ := Option.map_eq_some_iff.mp h
  exact ⟨call, turn, hturn⟩

theorem Untouched.concat (h : Untouched steps id tenantId) {s : ServiceStep}
    (hs : s.task? = some id → s.after.service = s.before.service ∧
      ∀ request, s.request? = some request → request = .lookup tenantId) :
    Untouched (steps ++ [s]) id tenantId := by
  intro other hother htask
  rcases List.mem_append.mp hother with hother | hother
  · exact h other hother htask
  · rw [List.mem_singleton.mp hother] at htask ⊢
    exact hs htask

theorem Stands.concat (h : Stands steps id job stage) {s : ServiceStep} (hs : s.task? ≠ some id) :
    Stands (steps ++ [s]) id job stage := by
  have hno : ∀ {P : Prop}, s.task? = some id → P := fun htask => absurd htask hs
  cases h with
  | scheduled fresh =>
    refine .scheduled fun other hother => ?_
    rcases List.mem_append.mp hother with hother | hother
    · exact fresh other hother
    · rw [List.mem_singleton.mp hother]
      exact hs
  | resolving untouched => exact .resolving (untouched.concat hno)
  | failed failure untouched refused =>
    obtain ⟨other, hother, hrefused⟩ := refused
    exact .failed failure (untouched.concat hno) ⟨other, List.mem_append_left _ hother, hrefused⟩
  | engaged task request past => exact .engaged task request past
  | ended result => exact .ended result
  | cancelled => exact .cancelled

/-- A job waits in a task of the engine. -/
theorem Stands.exists_engine {task : ServiceTask} {request : Request}
    (h : Stands steps id job (.reached (.waiting task request))) :
    ∃ current, task = .engine current := by
  cases h with
  | resolving untouched => exact ⟨_, rfl⟩
  | engaged current request past => exact ⟨current, rfl⟩

/-! ## Turns of a job -/

/-- A turn of the engine after which its task neither fails nor looks for a tenant. -/
theorem stands_of_engaged {service : Service} {turn : Turn} (hfailure : turn.progress.failure? = none)
    (hresolves : turn.progress.resolves? = none) :
    Stands steps id job (.reached (service.ofEngineTurn turn).progress) := by
  rcases turn with ⟨engine, entries, ⟨task, request⟩ | (failure | result)⟩
  · refine .engaged task request ?_
    rintro other rfl
    cases hresolves
  · cases hfailure
  · exact .ended result

/-- The first turn of a job: it has its client at hand or looks for its tenant. -/
theorem stands_start (hfresh : ∀ s ∈ steps, s.task? ≠ some id)
    (hturn : site.turn? move = some (id, .job job, turn))
    (hstart : turn = site.service.start site.setup (.job job)) :
    Stands (steps ++ [⟨site, move, site.step move⟩]) id job (.reached turn.progress) := by
  subst hstart
  cases hpool : site.service.engine.pool.lookup job.tenantId with
  | some client =>
    have hequipped := (@Engine.carries_start site.setup.engine _ _ _ hpool).equipped
    exact stands_of_engaged hequipped.failure? hequipped.resolves?
  | none =>
    obtain ⟨entries, heq⟩ := @Engine.start_of_absent site.setup.engine _ _ hpool
    have huntouched : Untouched steps id job.tenantId :=
      fun s hs htask => absurd htask (hfresh s hs)
    have hprogress : (site.service.start site.setup (.job job)).progress =
        .waiting (.engine (.resolving job)) (.lookup job.tenantId) := by
      rw [Service.start, heq]
      rfl
    have hservice : (site.step move).service = site.service := by
      rw [step_of_turn? hturn, advance, Service.start, heq]
      rfl
    rw [hprogress]
    refine .resolving (huntouched.concat fun _ => ⟨hservice, fun request hrequest => ?_⟩)
    rw [ServiceStep.request?, hturn, Option.bind_some, hprogress] at hrequest
    exact (Option.some.inj hrequest).symm

/-- A later turn of a job: it goes on, or it gets no client and fails. -/
theorem stands_resume {task : EngineTask} {request : Request} {given : Answer}
    (hstands : Stands steps id job (.reached (.waiting (.engine task) request)))
    (hturn : site.turn? move = some (id, .job job, turn))
    (hresume : turn = site.service.resume site.setup (.engine task)
      (site.service.answer request given)) :
    Stands (steps ++ [⟨site, move, site.step move⟩]) id job (.reached turn.progress) := by
  subst hresume
  cases hstands with
  | engaged _ _ past =>
    refine stands_of_engaged ?_ ?_
    · rw [Engine.failure?_resume]
      cases task with
      | resolving other => exact absurd rfl (past other)
      | closingSurplus _ _ | closing _ _ | sending _ _ _ _ _ | awaiting _ _ _ | changing _ _ _
      | acting _ _ _ _ | handling _ _ _ => rfl
    · cases hresolves : (site.service.engine.resume site.setup.engine task
        (site.service.answer request given)).progress.resolves? with
      | none => rfl
      | some other => exact absurd (Engine.resolves?_resume hresolves) (past other)
  | resolving untouched =>
    have hrefusal : Engine.refusal? site.setup.engine (.resolving job)
        (site.service.answer (.lookup job.tenantId) given) = site.refusal? job.tenantId := by
      rw [Service.answer, Service.lookup, refusal?]
      cases site.service.tenants.lookup job.tenantId <;> rfl
    cases hrefused : site.refusal? job.tenantId with
    | some failure =>
      have heq : site.service.engine.resume site.setup.engine (.resolving job)
          (site.service.answer (.lookup job.tenantId) given) =
            site.service.engine.finish (.error failure) :=
        Engine.resume_of_refusal? (hrefusal.trans hrefused)
      have hprogress : (site.service.resume site.setup (.engine (.resolving job))
          (site.service.answer (.lookup job.tenantId) given)).progress =
            .finished (.error failure) := by
        rw [Service.resume, heq]
        rfl
      have hservice : (site.step move).service = site.service := by
        rw [step_of_turn? hturn, advance, Service.resume, heq]
        rfl
      rw [hprogress]
      refine .failed failure (untouched.concat fun _ => ⟨hservice, fun request hrequest => ?_⟩)
        ⟨_, List.mem_append_right _ (List.mem_singleton_self _), task?_of_turn? hturn _, hrefused⟩
      rw [ServiceStep.request?, hturn, Option.bind_some, hprogress] at hrequest
      cases hrequest
    | none =>
      refine stands_of_engaged ?_ ?_
      · rw [Engine.failure?_resume, hrefusal, hrefused]
      · rw [Service.answer, Service.lookup]
        cases site.service.tenants.lookup job.tenantId with
        | none => rfl
        | some tenant => exact Engine.resolves?_engage job tenant

/-- Where a job comes with a turn of its own. -/
theorem stands_of_turn? (hjob : ∀ stage, site.tasks[id]? = some ⟨.job job, stage⟩ →
      Stands steps id job stage)
    (hturn : site.turn? move = some (id, .job job, turn)) :
    Stands (steps ++ [⟨site, move, site.step move⟩]) id job (.reached turn.progress) := by
  rcases turn?_eq_some_iff.mp hturn with
    ⟨-, htask, hstart⟩ | ⟨given, task, request, -, htask, hresume⟩
  · cases hjob _ htask with
    | scheduled fresh => exact stands_start fresh hturn hstart
  · have hstands : Stands steps id job (.reached (.waiting task request)) := hjob _ htask
    obtain ⟨current, rfl⟩ := hstands.exists_engine
    exact stands_resume hstands hturn hresume

/-- A turn of a job is one of those that it has left, unless it waits in vain. -/
theorem turnsLeft_of_turn? (hlimit : site.setup.engine.retry.StopsAt limit)
    (hstands : Stands steps id job stage) (htask : site.tasks[id]? = some ⟨.job job, stage⟩)
    (hturn : site.turn? move = some (id, .job job, turn)) :
    (Stage.reached turn.progress).turnsLeft limit job + (if site.idles id then 0 else 1) ≤
      stage.turnsLeft limit job := by
  have hleft : ∀ turn : Turn,
      (Stage.reached (site.service.ofEngineTurn turn).progress).turnsLeft limit job =
        turn.progress.turnsLeft limit := by
    rintro ⟨engine, entries, ⟨task, request⟩ | result⟩
    · rfl
    · rfl
  rcases turn?_eq_some_iff.mp hturn with ⟨-, hstart, rfl⟩ | ⟨given, task, request, -, hwait, rfl⟩
  · obtain rfl : stage = .scheduled := by simpa using htask.symm.trans hstart
    have hidles : site.idles id = false := by rw [idles, htask]
    rw [hidles, Service.start, hleft]
    exact Engine.turnsLeft_start job
  · obtain rfl : stage = .reached (.waiting task request) := by simpa using htask.symm.trans hwait
    obtain ⟨current, rfl⟩ := hstands.exists_engine
    have hidles : site.idles id = current.idles site.service.engine := by rw [idles, htask]
    rw [hidles, Service.resume, hleft]
    cases hidle : current.idles site.service.engine with
    | true =>
      obtain ⟨sync, key, flight, rfl, hresume⟩ := @Engine.resume_of_idles site.setup.engine _ _
        hidle (site.service.answer request given)
      rw [hresume]
      exact le_rfl
    | false =>
      refine Engine.turnsLeft_resume hlimit (fun other hother => ?_) hidle
      subst hother
      cases hstands with
      | resolving untouched =>
        rw [Service.answer, Service.lookup]
        cases site.service.tenants.lookup job.tenantId with
        | none => exact Answer.noConfusion
        | some tenant => exact Answer.noConfusion
      | engaged task request past => exact absurd rfl (past other)

/-- A job that is not over has a turn left. -/
theorem Stands.turnsLeft_pos (h : Stands steps id job stage) (hover : stage.isOver = false) :
    0 < stage.turnsLeft limit job := by
  cases h with
  | scheduled fresh => exact Nat.succ_pos _
  | resolving untouched => exact Nat.succ_pos _
  | engaged task request past => exact EngineTask.turnsLeft_pos task
  | failed _ _ _ | ended _ | cancelled => cases hover

/-! ## Runs -/

theorem setup_drop (task : Assignment) : (site.drop id task).setup = site.setup := by
  rcases task with ⟨call, _ | (⟨task, request⟩ | result) | _⟩
  · rfl
  · rw [drop]
    split <;> rfl
  · rfl
  · rfl

theorem setup_note (task : Assignment) : (site.note task).setup = site.setup := by
  rcases task with ⟨call, stage⟩
  cases call with
  | background number event =>
    rw [note]
    split <;> rfl
  | job _ | dispose | find _ | apply _ | record _ | query _ _ | drain => rfl

/-- Nothing changes how often calls are tried. -/
theorem retry_step (move : ServiceMove) :
    (site.step move).setup.engine.retry = site.setup.engine.retry := by
  cases hturn : site.turn? move with
  | some entry =>
    rw [step_of_turn? hturn]
    rfl
  | none =>
    rw [step_of_idle hturn]
    cases move with
    | ask call =>
      rw [shift]
      split <;> rfl
    | cancel id =>
      rw [shift]
      cases site.tasks[id]? with
      | none => rfl
      | some task => exact congrArg (fun setup => setup.engine.retry) (setup_drop task)
    | noteEnd id =>
      rw [shift]
      cases site.tasks[id]? with
      | none => rfl
      | some task => exact congrArg (fun setup => setup.engine.retry) (setup_note task)
    | launch _ | resume _ _ | configure _ | clearCache | register _ | disrupt _ | obstruct _
    | tick _ => rfl

/-- What all jobs have done after some steps, and the turns that they take at most. -/
structure Jobs (steps : List ServiceStep) (site : Deployment) : Prop where
  known : ∀ s ∈ steps, ∀ id, s.task? = some id → id < site.tasks.length
  stands : ∀ id job stage, site.tasks[id]? = some ⟨.job job, stage⟩ → Stands steps id job stage
  bounded : ∀ limit, site.setup.engine.retry.StopsAt limit → ∀ id job stage,
    site.tasks[id]? = some ⟨.job job, stage⟩ →
      turnsTaken steps id + stage.turnsLeft limit job ≤ job.turns limit

theorem turnsTaken_concat (s : ServiceStep) : turnsTaken (steps ++ [s]) id =
    turnsTaken steps id + if s.task? = some id ∧ s.before.idles id = false then 1 else 0 := by
  rw [turnsTaken, List.countP_append, List.countP_singleton]
  simp [turnsTaken]

/-- A task that has not had a turn has taken none. -/
theorem turnsTaken_eq_zero (h : ∀ s ∈ steps, s.task? ≠ some id) : turnsTaken steps id = 0 := by
  refine List.countP_eq_zero.mpr fun s hs => ?_
  simp [h s hs]

theorem Jobs.step (h : Jobs steps site) (move : ServiceMove) :
    Jobs (steps ++ [⟨site, move, site.step move⟩]) (site.step move) := by
  have hknown : ∀ s ∈ steps ++ [⟨site, move, site.step move⟩], ∀ id, s.task? = some id →
      id < site.tasks.length := by
    intro s hs id htask
    rcases List.mem_append.mp hs with hs | hs
    · exact h.known s hs id htask
    · rw [List.mem_singleton.mp hs] at htask
      obtain ⟨call, turn, hturn⟩ := exists_turn?_of_task? htask
      obtain ⟨stage, hbefore, -⟩ := getElem?_of_turn? hturn
      exact (List.getElem?_eq_some_iff.mp hbefore).1
  have hfresh : ∀ id, site.tasks.length ≤ id →
      ∀ s ∈ steps ++ [⟨site, move, site.step move⟩], s.task? ≠ some id :=
    fun id hle s hs htask => absurd (hknown s hs id htask) (Nat.not_lt.mpr hle)
  -- a turn of the job is told apart from everything else that happens
  have hcases : ∀ id job stage, (site.step move).tasks[id]? = some ⟨.job job, stage⟩ →
      (∃ turn, site.turn? move = some (id, .job job, turn) ∧ stage = .reached turn.progress) ∨
      (ServiceStep.task? ⟨site, move, site.step move⟩ ≠ some id ∧
        (site.tasks[id]? = some ⟨.job job, stage⟩ ∨
          (stage = .cancelled ∧ ∃ old, site.tasks[id]? = some ⟨.job job, old⟩) ∨
          (stage = .scheduled ∧ site.tasks.length ≤ id))) := by
    intro id job stage htask
    by_cases hown : ServiceStep.task? ⟨site, move, site.step move⟩ = some id
    · obtain ⟨call, turn, hturn⟩ := exists_turn?_of_task? hown
      obtain ⟨rfl, rfl⟩ : call = .job job ∧ .reached turn.progress = stage := by
        simpa using (getElem?_advance hturn).symm.trans htask
      exact .inl ⟨turn, hturn, rfl⟩
    · rcases task_step htask with hsame | ⟨turn, hturn, -⟩ | hcancelled | hnew
      · exact .inr ⟨hown, .inl hsame⟩
      · exact absurd (task?_of_turn? hturn _) hown
      · exact .inr ⟨hown, .inr (.inl hcancelled)⟩
      · exact .inr ⟨hown, .inr (.inr hnew)⟩
  refine ⟨?_, ?_, ?_⟩
  · exact fun s hs id htask => (hknown s hs id htask).trans_le (length_le_step move)
  · intro id job stage htask
    rcases hcases id job stage htask with
      ⟨turn, hturn, rfl⟩ | ⟨hother, hsame | ⟨rfl, -⟩ | ⟨rfl, hle⟩⟩
    · exact stands_of_turn? (fun stage => h.stands id job stage) hturn
    · exact (h.stands id job stage hsame).concat hother
    · exact .cancelled
    · exact .scheduled (hfresh id hle)
  · intro limit hlimit id job stage htask
    rw [retry_step] at hlimit
    rcases hcases id job stage htask with
      ⟨turn, hturn, rfl⟩ | ⟨hother, hsame | ⟨rfl, old, hold⟩ | ⟨rfl, hle⟩⟩
    · obtain ⟨old, hold, -⟩ := getElem?_of_turn? hturn
      have hbefore := h.bounded limit hlimit id job old hold
      have hturns := turnsLeft_of_turn? hlimit (h.stands id job old hold) hold hturn
      rw [turnsTaken_concat, task?_of_turn? hturn]
      by_cases hidle : site.idles id = true
      · rw [if_pos hidle] at hturns
        rw [if_neg fun h => Bool.false_ne_true (h.2.symm.trans hidle)]
        omega
      · rw [if_neg hidle] at hturns
        rw [if_pos ⟨rfl, Bool.eq_false_iff.mpr hidle⟩]
        omega
    · rw [turnsTaken_concat, if_neg fun hown => hother hown.1]
      exact h.bounded limit hlimit id job stage hsame
    · have hbefore := h.bounded limit hlimit id job old hold
      rw [turnsTaken_concat, if_neg fun hown => hother hown.1]
      exact (Nat.le_add_right _ _).trans hbefore
    · rw [turnsTaken_eq_zero (hfresh id hle), Nat.zero_add]
      exact le_rfl

theorem jobs_initial (setup : ServiceSetup) (service : Service) : Jobs [] ⟨setup, service, []⟩ where
  known := by
    intro s hs
    cases hs
  stands := by
    intro id job stage htask
    cases htask
  bounded := by
    intro limit _ id job stage htask
    cases htask

theorem jobs_run (setup : ServiceSetup) (service : Service) (moves : List ServiceMove) :
    Jobs ((Deployment.mk setup service []).steps moves)
      ((Deployment.mk setup service []).run moves) :=
  run_induction (P := Jobs) (jobs_initial setup service) (fun _ _ move h => h.step move) moves

end Deployment

end Automation
