import Automation.Service
import Mathlib.Data.List.Induction

/-!
# Deployments of the service

A deployed service has any number of tasks. Each of them runs in turns, a turn goes from one wait
to the next, and nothing else happens within a turn. So a run of a deployment is a list of moves in
any order: a caller asks for something, a task has its first turn, a task goes on because its wait
has ended in one way or another, or something changes around the tasks.

Tenants are looked up in the service itself, and clients close when they are told to; how any other
wait ends is up to the outside. An application of policies in the background is never asked for by
a caller, but scheduled by a task that records an event.

## Main definitions

* `Assignment`, `Stage` — a task of a deployment, and where it stands.
* `Deployment`, `ServiceMove`, `Deployment.step` — a deployment, what can happen to it, and what
  that makes of it.
* `Deployment.run`, `Deployment.steps` — a list of moves in a row, and the record of its steps.

## Main statements

* `Deployment.turn?_eq_some_iff`, `Deployment.rests_shift` — a move is a turn of one task, or it
  schedules no application and keeps no failure.
* `Deployment.reached_step`, `Deployment.finished_step` — how a task comes to where it stands, and
  that it stays where it is finished.
* `Deployment.run_induction` — what a step preserves, a run preserves.
-/

namespace Automation

/-- Where a task stands: it has not run yet, or it is at its next wait or at its end, or it was
cancelled. -/
inductive Stage where
  | scheduled
  | reached (progress : ServiceProgress)
  | cancelled

/-- A task of a deployment: what it was asked for, and where it stands. -/
structure Assignment where
  call : ServiceCall
  stage : Stage

/-- The number of the application that a call runs in the background, and its event. -/
def ServiceCall.application? : ServiceCall → Option (Nat × Event)
  | .background number event => some (number, event)
  | .job _ | .dispose | .find _ | .apply _ | .record _ | .query .. | .drain => none

namespace Stage

/-- Whether a task is over. -/
def isOver : Stage → Bool
  | .reached (.finished _) | .cancelled => true
  | .scheduled | .reached (.waiting ..) => false

/-- What a task has ended with. -/
def result? : Stage → Option (Except Failure ServiceResult)
  | .reached (.finished result) => some result
  | .scheduled | .reached (.waiting ..) | .cancelled => none

end Stage

/-- The task of an application that has been scheduled. -/
def Assignment.ofApplication (application : Nat × Event) : Assignment :=
  ⟨.background application.1 application.2, .scheduled⟩

/-- The service with what it is set up with and with all tasks that it was given. -/
structure Deployment where
  setup : ServiceSetup
  service : Service
  tasks : List Assignment

/-- What can happen to a deployment. -/
inductive ServiceMove where
  /-- A caller asks for something. -/
  | ask (call : ServiceCall)
  /-- A task has its first turn. -/
  | launch (id : Nat)
  /-- The wait of a task ends, with the answer given where it is up to the outside. -/
  | resume (id : Nat) (answer : Answer)
  /-- A task is cancelled, unless it waits for the database. -/
  | cancel (id : Nat)
  /-- It is noted that a task is over which was an application in the background. -/
  | noteEnd (id : Nat)
  | configure (tenant : Tenant)
  | clearCache
  | register (kind : ActionKind)
  /-- The database is about to fail. -/
  | disrupt (disruption : Disruption)
  /-- It changes for which tenants clients can be made. -/
  | obstruct (obstacle : Tenant → Option Failure)
  | tick (now : Timestamp)

/-- How a wait ends: tenants come from the service itself, a client that is told to close does so,
and anything else is up to the outside. -/
def Service.answer (service : Service) : Request → Answer → Answer
  | .lookup tenantId, _ => service.lookup tenantId
  | .close _, _ => .done
  | .call .., answer | .deliver .., answer | .handle .., answer
  | .pause _, answer | .landing _, answer | .storage, answer | .applications _, answer => answer

namespace Deployment

/-- A service for tenants and with an empty store, before any task. -/
def initial (setup : ServiceSetup) (tenants : List (String × Tenant)) (backend : StoreBackend) :
    Deployment :=
  ⟨setup, .initial tenants backend, []⟩

/-- The events of the applications that were ever scheduled, in order. -/
def applications (site : Deployment) : List Event :=
  site.tasks.filterMap fun task => task.call.application?.map Prod.snd

/-- What the task of a number has ended with. -/
def result? (site : Deployment) (id : Nat) : Option (Except Failure ServiceResult) :=
  site.tasks[id]?.bind fun task => task.stage.result?

/-- The deployment with a task at another stage. -/
def setStage (site : Deployment) (id : Nat) (call : ServiceCall) (stage : Stage) : Deployment :=
  { site with tasks := site.tasks.set id ⟨call, stage⟩ }

/-- The deployment after a turn of a task: what the turn has scheduled comes behind all tasks. -/
def advance (site : Deployment) (id : Nat) (call : ServiceCall) (turn : ServiceTurn) :
    Deployment :=
  { site with
    service := turn.service
    tasks := site.tasks.set id ⟨call, .reached turn.progress⟩ ++
      turn.scheduled.map .ofApplication }

/-- The deployment when a task is cancelled. A thread that is busy with the database runs on, so
a task that waits for it goes on waiting. -/
def drop (site : Deployment) (id : Nat) : Assignment → Deployment
  | ⟨call, .scheduled⟩ => site.setStage id call .cancelled
  | ⟨call, .reached (.waiting task request)⟩ =>
    if request = .storage then site
    else { site.setStage id call .cancelled with service := site.service.cancel task }
  | ⟨_, .reached (.finished _)⟩ | ⟨_, .cancelled⟩ => site

/-- The deployment when it is noted that a task is over. -/
def note (site : Deployment) : Assignment → Deployment
  | ⟨.background number _, stage⟩ =>
    if stage.isOver then { site with service := site.service.noteEnd number } else site
  | _ => site

/-- The turn that a task has with a move. -/
def turn? (site : Deployment) : ServiceMove → Option (Nat × ServiceCall × ServiceTurn)
  | .launch id =>
    match site.tasks[id]? with
    | some ⟨call, .scheduled⟩ => some (id, call, site.service.start site.setup call)
    | _ => none
  | .resume id answer =>
    match site.tasks[id]? with
    | some ⟨call, .reached (.waiting task request)⟩ =>
      some (id, call, site.service.resume site.setup task (site.service.answer request answer))
    | _ => none
  | _ => none

/-- The deployment after a move that is no turn of a task. -/
def shift (site : Deployment) : ServiceMove → Deployment
  | .ask call =>
    match call.application? with
    | none => { site with tasks := site.tasks ++ [⟨call, .scheduled⟩] }
    | some _ => site
  | .cancel id => (site.tasks[id]?.map (site.drop id)).getD site
  | .noteEnd id => (site.tasks[id]?.map site.note).getD site
  | .configure tenant => { site with service := (site.service.setTenant tenant).1 }
  | .clearCache =>
    { site with service := { site.service with engine := site.service.engine.clearCache.1 } }
  | .register kind =>
    { site with service := { site.service with engine := site.service.engine.register kind } }
  | .disrupt disruption =>
    { site with service := { site.service with store := site.service.store.disrupt disruption } }
  | .obstruct obstacle =>
    { site with setup := { site.setup with engine := { site.setup.engine with obstacle } } }
  | .tick now => { site with setup := { site.setup with now } }
  | .launch _ | .resume .. => site

/-- The deployment after a move. -/
def step (site : Deployment) (move : ServiceMove) : Deployment :=
  match site.turn? move with
  | some (id, call, turn) => site.advance id call turn
  | none => site.shift move

/-- The deployment after moves in a row. -/
def run (site : Deployment) (moves : List ServiceMove) : Deployment := moves.foldl step site

end Deployment

/-- A step of a run: a move, with the deployment before and after it. -/
structure ServiceStep where
  before : Deployment
  move : ServiceMove
  after : Deployment

namespace Deployment

/-- The steps of a run, in order. -/
def steps (site : Deployment) : List ServiceMove → List ServiceStep
  | [] => []
  | move :: rest => ⟨site, move, site.step move⟩ :: steps (site.step move) rest

variable {site : Deployment}

theorem run_concat (moves : List ServiceMove) (move : ServiceMove) :
    site.run (moves ++ [move]) = (site.run moves).step move := by
  simp [run]

theorem steps_concat (moves : List ServiceMove) (move : ServiceMove) :
    site.steps (moves ++ [move]) = site.steps moves ++
      [⟨site.run moves, move, (site.run moves).step move⟩] := by
  induction moves generalizing site with
  | nil => rfl
  | cons first rest ih => simp only [List.cons_append, steps, ih, run, List.foldl_cons]

/-- What holds before any move, and goes on to hold with every step, holds of every run. -/
theorem run_induction {P : List ServiceStep → Deployment → Prop} (hstart : P [] site)
    (hstep : ∀ steps site move, P steps site →
      P (steps ++ [⟨site, move, site.step move⟩]) (site.step move))
    (moves : List ServiceMove) : P (site.steps moves) (site.run moves) := by
  -- from the end, as the record grows behind the steps that are there
  induction moves using List.reverseRecOn with
  | nil => exact hstart
  | append_singleton moves move ih =>
    rw [steps_concat, run_concat]
    exact hstep _ _ move ih

/-! ## Steps -/

/-- The moves that are turns of tasks: first turns, and those after a wait. -/
theorem turn?_eq_some_iff {move : ServiceMove} {id : Nat} {call : ServiceCall}
    {turn : ServiceTurn} :
    site.turn? move = some (id, call, turn) ↔
      (move = .launch id ∧ site.tasks[id]? = some ⟨call, .scheduled⟩ ∧
        turn = site.service.start site.setup call) ∨
      ∃ answer task request, move = .resume id answer ∧
        site.tasks[id]? = some ⟨call, .reached (.waiting task request)⟩ ∧
        turn = site.service.resume site.setup task (site.service.answer request answer) := by
  constructor
  · intro h
    cases move with
    | launch other =>
      rw [turn?] at h
      split at h
      next found htask =>
        obtain ⟨rfl, rfl, rfl⟩ : other = id ∧ found = call ∧ _ = turn := by simpa using h
        exact .inl ⟨rfl, htask, rfl⟩
      next => cases h
    | resume other answer =>
      rw [turn?] at h
      split at h
      next found task request htask =>
        obtain ⟨rfl, rfl, rfl⟩ : other = id ∧ found = call ∧ _ = turn := by simpa using h
        exact .inr ⟨answer, task, request, rfl, htask, rfl⟩
      next => cases h
    | ask _ | cancel _ | noteEnd _ | configure _ | clearCache | register _ | disrupt _ | obstruct _
    | tick _ => cases h
  · rintro (⟨rfl, htask, rfl⟩ | ⟨answer, task, request, rfl, htask, rfl⟩)
    · simp only [turn?, htask]
    · simp only [turn?, htask]

/-- A move that is no turn of a task neither schedules applications nor keeps failures; a task that
it changes has not run yet or is cancelled. -/
structure Rests (site next : Deployment) : Prop where
  dispatches : next.setup.dispatches = site.setup.dispatches
  maxFailures : next.setup.maxFailures? = site.setup.maxFailures?
  failures : next.service.pipeline.failures = site.service.pipeline.failures
  applications : next.applications = site.applications
  kept : ∀ (id : Nat) (task : Assignment), next.tasks[id]? = some task →
    site.tasks[id]? = some task ∨ task.stage = .scheduled ∨ task.stage = .cancelled
  stays : ∀ (id : Nat) (call : ServiceCall) (result : Except Failure ServiceResult),
    site.tasks[id]? = some ⟨call, .reached (.finished result)⟩ →
    next.tasks[id]? = some ⟨call, .reached (.finished result)⟩

theorem Rests.of_tasks {next : Deployment} (htasks : next.tasks = site.tasks)
    (hdispatches : next.setup.dispatches = site.setup.dispatches)
    (hmax : next.setup.maxFailures? = site.setup.maxFailures?)
    (hfailures : next.service.pipeline.failures = site.service.pipeline.failures) :
    site.Rests next where
  dispatches := hdispatches
  maxFailures := hmax
  failures := hfailures
  applications := congrArg (List.filterMap _) htasks
  kept _ _ htask := .inl (htasks ▸ htask)
  stays _ _ _ htask := htasks ▸ htask

theorem filterMap_set {α β : Type} {f : α → Option β} {l : List α} {i : Nat} {a b : α}
    (h : l[i]? = some a) (heq : f b = f a) : (l.set i b).filterMap f = l.filterMap f := by
  induction l generalizing i with
  | nil => cases h
  | cons first rest ih =>
    cases i with
    | zero =>
      obtain rfl : first = a := Option.some.inj h
      rw [List.set_cons_zero, List.filterMap_cons, List.filterMap_cons, heq]
    | succ i => rw [List.set_cons_succ, List.filterMap_cons, List.filterMap_cons, ih h]

/-- A task in a list with new ones was there before or is one of them, behind all others. -/
theorem getElem?_append_cases {l added : List Assignment} {i : Nat} {task : Assignment}
    (h : (l ++ added)[i]? = some task) :
    l[i]? = some task ∨ (l.length ≤ i ∧ task ∈ added) := by
  rcases Nat.lt_or_ge i l.length with hlt | hge
  · rw [List.getElem?_append_left hlt] at h
    exact .inl h
  · rw [List.getElem?_append_right hge] at h
    exact .inr ⟨hge, List.mem_of_getElem? h⟩

theorem getElem?_append_of_eq_some {l : List Assignment} {i : Nat} {task : Assignment}
    (h : l[i]? = some task) (added : List Assignment) : (l ++ added)[i]? = some task := by
  rw [List.getElem?_append_left (List.getElem?_eq_some_iff.mp h).1, h]

theorem getElem?_set_cases {l : List Assignment} {i j : Nat} {task other : Assignment}
    (h : (l.set i task)[j]? = some other) : l[j]? = some other ∨ other = task := by
  by_cases hij : i = j
  · subst hij
    rw [List.getElem?_set_self'] at h
    obtain ⟨found, hfound, rfl⟩ := Option.map_eq_some_iff.mp h
    exact .inr rfl
  · rw [List.getElem?_set_ne hij] at h
    exact .inl h

/-- A task that is dropped where it stands. -/
theorem rests_cancelled {id : Nat} {call : ServiceCall} {old : Stage}
    (h : site.tasks[id]? = some ⟨call, old⟩) (hold : old.isOver = false) {next : Deployment}
    (htasks : next.tasks = site.tasks.set id ⟨call, .cancelled⟩)
    (hsetup : next.setup = site.setup)
    (hpipeline : next.service.pipeline = site.service.pipeline) : site.Rests next where
  dispatches := by rw [hsetup]
  maxFailures := by rw [hsetup]
  failures := by rw [hpipeline]
  applications := by
    rw [applications, htasks]
    exact filterMap_set h rfl
  kept other task htask := by
    rw [htasks] at htask
    rcases getElem?_set_cases htask with htask | rfl
    · exact .inl htask
    · exact .inr (.inr rfl)
  stays other asked result htask := by
    have hne : id ≠ other := by
      rintro rfl
      obtain ⟨rfl, rfl⟩ : call = asked ∧ old = .reached (.finished result) := by
        simpa using h.symm.trans htask
      cases hold
    rw [htasks, List.getElem?_set_ne hne, htask]

theorem Rests.refl (site : Deployment) : site.Rests site := .of_tasks rfl rfl rfl rfl

theorem rests_drop {id : Nat} {task : Assignment} (h : site.tasks[id]? = some task) :
    site.Rests (site.drop id task) := by
  obtain ⟨call, stage⟩ := task
  cases stage with
  | scheduled => exact rests_cancelled h rfl rfl rfl rfl
  | cancelled => exact .refl site
  | reached progress =>
    cases progress with
    | finished result => exact .refl site
    | waiting task request =>
      rw [drop]
      split
      · exact .refl site
      · refine rests_cancelled h rfl rfl rfl ?_
        cases task <;> rfl

theorem rests_note (task : Assignment) : site.Rests (site.note task) := by
  obtain ⟨call, stage⟩ := task
  cases call with
  | background number event =>
    rw [note]
    split
    · exact .of_tasks rfl rfl rfl rfl
    · exact .refl site
  | job _ | dispose | find _ | apply _ | record _ | query _ _ | drain => exact .refl site

theorem rests_shift (move : ServiceMove) : site.Rests (site.shift move) := by
  cases move with
  | ask call =>
    rw [shift]
    split
    next happlication =>
      refine ⟨rfl, rfl, rfl, ?_, fun id task htask => ?_, fun id asked result htask => ?_⟩
      · simp [applications, happlication]
      · rcases getElem?_append_cases htask with htask | ⟨-, hmem⟩
        · exact .inl htask
        · rw [List.mem_singleton.mp hmem]
          exact .inr (.inl rfl)
      · exact getElem?_append_of_eq_some htask _
    next => exact .refl site
  | cancel id =>
    rw [shift]
    cases htask : site.tasks[id]? with
    | none => exact .refl site
    | some task => exact rests_drop htask
  | noteEnd id =>
    rw [shift]
    cases site.tasks[id]? with
    | none => exact .refl site
    | some task => exact rests_note task
  | configure _ | clearCache | register _ | disrupt _ | obstruct _ | tick _ =>
    exact .of_tasks rfl rfl rfl rfl
  | launch _ | resume _ _ => exact .refl site

variable {move : ServiceMove} {id : Nat} {call : ServiceCall} {turn : ServiceTurn}

theorem step_of_turn? (h : site.turn? move = some (id, call, turn)) :
    site.step move = site.advance id call turn := by
  rw [step, h]

theorem step_of_idle (h : site.turn? move = none) : site.step move = site.shift move := by
  rw [step, h]

/-- A task that has a turn was not over. -/
theorem getElem?_of_turn? (h : site.turn? move = some (id, call, turn)) :
    ∃ stage, site.tasks[id]? = some ⟨call, stage⟩ ∧ stage.isOver = false := by
  obtain ⟨-, htask, -⟩ | ⟨answer, task, request, -, htask, -⟩ := turn?_eq_some_iff.mp h
  · exact ⟨_, htask, rfl⟩
  · exact ⟨_, htask, rfl⟩

/-- A task that is finished stays so. -/
theorem finished_step {result : Except Failure ServiceResult}
    (h : site.tasks[id]? = some ⟨call, .reached (.finished result)⟩) (move : ServiceMove) :
    (site.step move).tasks[id]? = some ⟨call, .reached (.finished result)⟩ := by
  cases hturn : site.turn? move with
  | none =>
    rw [step_of_idle hturn]
    exact (site.rests_shift move).stays id call result h
  | some entry =>
    obtain ⟨other, asked, turn⟩ := entry
    obtain ⟨stage, htask, hstage⟩ := getElem?_of_turn? hturn
    have hne : other ≠ id := by
      rintro rfl
      obtain ⟨rfl, rfl⟩ : asked = call ∧ stage = .reached (.finished result) := by
        simpa using htask.symm.trans h
      cases hstage
    rw [step_of_turn? hturn]
    exact getElem?_append_of_eq_some ((List.getElem?_set_ne hne).trans h) _

theorem getElem?_advance (h : site.turn? move = some (id, call, turn)) :
    (site.step move).tasks[id]? = some ⟨call, .reached turn.progress⟩ := by
  obtain ⟨stage, htask, -⟩ := getElem?_of_turn? h
  rw [step_of_turn? h]
  exact getElem?_append_of_eq_some
    (List.getElem?_set_self (List.getElem?_eq_some_iff.mp htask).1) _

/-- A task that stands somewhere after a step stood there before, or has come there by its turn. -/
theorem reached_step {progress : ServiceProgress}
    (h : (site.step move).tasks[id]? = some ⟨call, .reached progress⟩) :
    site.tasks[id]? = some ⟨call, .reached progress⟩ ∨
      ∃ turn, site.turn? move = some (id, call, turn) ∧ turn.progress = progress := by
  cases hturn : site.turn? move with
  | none =>
    rw [step_of_idle hturn] at h
    rcases (site.rests_shift move).kept id _ h with h | hstage | hstage
    · exact .inl h
    · cases hstage
    · cases hstage
  | some entry =>
    obtain ⟨other, asked, turn⟩ := entry
    by_cases hid : other = id
    · subst hid
      obtain ⟨rfl, hprogress⟩ : asked = call ∧ turn.progress = progress := by
        simpa using (getElem?_advance hturn).symm.trans h
      exact .inr ⟨turn, rfl, hprogress⟩
    · rw [step_of_turn? hturn] at h
      rcases getElem?_append_cases h with h | ⟨-, hmem⟩
      · rw [List.getElem?_set_ne hid] at h
        exact .inl h
      · -- what the turn has scheduled has not run yet
        obtain ⟨application, -, heq⟩ := List.mem_map.mp hmem
        cases heq

theorem applications_advance (h : site.turn? move = some (id, call, turn)) :
    (site.step move).applications = site.applications ++ turn.scheduled.map Prod.snd := by
  obtain ⟨stage, htask, -⟩ := getElem?_of_turn? h
  have hset : (site.tasks.set id ⟨call, .reached turn.progress⟩).filterMap
      (fun task => task.call.application?.map Prod.snd) = site.applications :=
    filterMap_set htask rfl
  have hscheduled : (turn.scheduled.map Assignment.ofApplication).filterMap
      (fun task => task.call.application?.map Prod.snd) = turn.scheduled.map Prod.snd := by
    rw [List.filterMap_map]
    exact congrFun List.filterMap_eq_map turn.scheduled
  rw [step_of_turn? h, applications, advance, List.filterMap_append, hset, hscheduled]

theorem setup_step (move : ServiceMove) :
    (site.step move).setup.dispatches = site.setup.dispatches ∧
      (site.step move).setup.maxFailures? = site.setup.maxFailures? := by
  cases hturn : site.turn? move with
  | none =>
    rw [step_of_idle hturn]
    exact ⟨(site.rests_shift move).dispatches, (site.rests_shift move).maxFailures⟩
  | some entry =>
    rw [step_of_turn? hturn]
    exact ⟨rfl, rfl⟩

end Deployment

end Automation
