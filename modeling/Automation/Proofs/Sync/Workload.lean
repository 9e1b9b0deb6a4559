import Automation.Proofs.Sync.Outcome
import Mathlib.Data.List.DropRight
import Mathlib.Data.List.Induction

/-!
# Workloads of the engine

Any number of tasks share one engine. Each of them runs in turns, a turn goes from one wait to the
next, and nothing else happens within a turn. So a run of the engine is a list of moves in any
order: a job is started, clients are disposed of, the cache is cleared, a handler is registered, a
task goes on because its wait has ended in one way or another, or a task is cancelled where it
waits.

## Main definitions

* `Workload`, `Standing` — the engine and all tasks it was given, with where they stand.
* `Move`, `Workload.step` — what can happen, and what it makes of a workload.
* `Workload.run`, `Workload.steps` — a list of moves in a row, and the record of its steps.
* `Workload.Shift` — what a step does to the tables of messages and to the attended flights.

## Main statements

* `Workload.run_induction` — what a step preserves, a run preserves.
* `Workload.getElem?_step_of_ne` — a step changes one task at most.
* `Workload.shift_step` — every step is a shift.
* `Workload.asks_run` — a task that waits asks for what belongs to it.
-/

namespace Automation

/-- Where a task stands: at its next wait, at its end, or it was cancelled. -/
inductive Standing where
  | reached (progress : Progress)
  | cancelled

namespace Standing

/-- The task that waits. -/
def task? : Standing → Option EngineTask
  | .reached (.waiting task _) => some task
  | .reached (.finished _) | .cancelled => none

/-- The flight that a task attends. -/
def attends? : Standing → Option Attendance
  | .reached progress => progress.attends?
  | .cancelled => none

/-- The result so far of a sync that was not cancelled. -/
def result? : Standing → Option SyncResult
  | .reached progress => progress.result?
  | .cancelled => none

theorem attends?_eq_bind (standing : Standing) :
    standing.attends? = standing.task?.bind EngineTask.attends? := by
  rcases standing with (⟨task, request⟩ | result) | _ <;> rfl

end Standing

/-- An engine with all tasks that it was given, in the order in which they came. -/
structure Workload where
  engine : Engine
  tasks : List Standing

/-- What can happen to a workload. -/
inductive Move where
  /-- A job is given to the engine and has its first turn. -/
  | start (job : Job)
  /-- The engine is told to close its clients. -/
  | dispose
  /-- The engine is told to forget the messages that were sent. -/
  | clearCache
  | register (kind : ActionKind)
  /-- The wait of a task ends with an answer. -/
  | resume (id : Nat) (answer : Answer)
  /-- A task is cancelled where it waits. -/
  | cancel (id : Nat)
  deriving DecidableEq, Repr

/-- The task that goes on or is cancelled with a move. -/
def Move.task? : Move → Option Nat
  | .resume id _ | .cancel id => some id
  | .start _ | .dispose | .clearCache | .register _ => none

namespace Workload

/-- A new engine without tasks. -/
def initial : Workload := ⟨.initial, []⟩

/-- The task of a number, if it waits. -/
def task? (load : Workload) (id : Nat) : Option EngineTask := load.tasks[id]?.bind Standing.task?

/-- The flight that the task of a number attends. -/
def attends? (load : Workload) (id : Nat) : Option Attendance :=
  load.tasks[id]?.bind Standing.attends?

/-- The result so far of the sync of a number. -/
def result? (load : Workload) (id : Nat) : Option SyncResult :=
  load.tasks[id]?.bind Standing.result?

/-- The message whose send returns successfully with a move: a task that has a call under way for
the message goes on, and the call has not failed. -/
def sent? (load : Workload) : Move → Option MessageId
  | .resume id answer =>
    if answer.succeeds then (load.task? id).bind EngineTask.calling? else none
  | .start _ | .dispose | .clearCache | .register _ | .cancel _ => none

/-- The workload after the first turn of a new task. -/
def enlist (load : Workload) (turn : Turn) : Workload :=
  ⟨turn.engine, load.tasks ++ [.reached turn.progress]⟩

/-- The workload after a further turn of a task. -/
def advance (load : Workload) (id : Nat) (turn : Turn) : Workload :=
  ⟨turn.engine, load.tasks.set id (.reached turn.progress)⟩

/-- The workload after a move. A task that does not wait can neither go on nor be cancelled. -/
def step (setup : EngineSetup) (load : Workload) : Move → Workload
  | .start job => load.enlist (load.engine.start setup job)
  | .dispose => load.enlist load.engine.dispose
  | .clearCache => { load with engine := load.engine.clearCache.1 }
  | .register kind => { load with engine := load.engine.register kind }
  | .resume id answer =>
    match load.task? id with
    | some task => load.advance id (load.engine.resume setup task answer)
    | none => load
  | .cancel id =>
    match load.task? id with
    | some task => ⟨load.engine.cancel task, load.tasks.set id .cancelled⟩
    | none => load

/-- The workload after moves in a row. -/
def run (setup : EngineSetup) (load : Workload) (moves : List Move) : Workload :=
  moves.foldl (step setup) load

end Workload

theorem filterMap_concat {α β : Type} (f : α → Option β) (l : List α) (a : α) :
    (l ++ [a]).filterMap f = l.filterMap f ++ (f a).toList := by
  rw [List.filterMap_append, List.filterMap_cons]
  cases f a <;> rfl

/-- A step of a run: a move, with the workload before and after it. -/
structure Step where
  before : Workload
  move : Move
  after : Workload

/-- The message whose send returns successfully with a step. -/
def Step.sent? (s : Step) : Option MessageId := s.before.sent? s.move

namespace Workload

/-- The steps of a run, in order. -/
def steps (setup : EngineSetup) (load : Workload) : List Move → List Step
  | [] => []
  | move :: rest =>
    ⟨load, move, load.step setup move⟩ :: steps setup (load.step setup move) rest

variable {setup : EngineSetup} {load : Workload} {id : Nat}

theorem run_concat (moves : List Move) (move : Move) :
    load.run setup (moves ++ [move]) = (load.run setup moves).step setup move := by
  simp [run]

theorem steps_concat (moves : List Move) (move : Move) :
    load.steps setup (moves ++ [move]) = load.steps setup moves ++
      [⟨load.run setup moves, move, (load.run setup moves).step setup move⟩] := by
  induction moves generalizing load with
  | nil => rfl
  | cons first rest ih => simp only [List.cons_append, steps, ih, run, List.foldl_cons]

/-- What holds before any move, and goes on to hold with every step, holds of every run. -/
theorem run_induction {P : List Step → Workload → Prop} (hstart : P [] load)
    (hstep : ∀ steps load move, P steps load →
      P (steps ++ [⟨load, move, load.step setup move⟩]) (load.step setup move))
    (moves : List Move) : P (load.steps setup moves) (load.run setup moves) := by
  -- from the end, as the record grows behind the steps that are there
  induction moves using List.reverseRecOn with
  | nil => exact hstart
  | append_singleton moves move ih =>
    rw [steps_concat, run_concat]
    exact hstep _ _ move ih

/-- What every step preserves holds in every state of a run. -/
theorem invariant_of_mem {P : Workload → Prop} (hstart : P load)
    (hstep : ∀ load move, P load → P (load.step setup move)) {moves : List Move} {s : Step}
    (hs : s ∈ load.steps setup moves) : P s.before ∧ P s.after := by
  have hall : P (load.run setup moves) ∧
      ∀ s ∈ load.steps setup moves, P s.before ∧ P s.after := by
    refine run_induction (P := fun steps load => P load ∧ ∀ s ∈ steps, P s.before ∧ P s.after)
      ⟨hstart, by simp⟩ ?_ moves
    rintro steps load move ⟨hload, hsteps⟩
    refine ⟨hstep load move hload, fun s hs => ?_⟩
    rcases List.mem_append.mp hs with hs | hs
    · exact hsteps s hs
    · rw [List.mem_singleton.mp hs]
      exact ⟨hload, hstep load move hload⟩
  exact hall.2 s hs

theorem after_eq_of_mem {moves : List Move} {s : Step} (hs : s ∈ load.steps setup moves) :
    s.after = s.before.step setup s.move := by
  induction moves generalizing load with
  | nil => cases hs
  | cons move rest ih =>
    rcases List.mem_cons.mp hs with rfl | hs
    · rfl
    · exact ih hs

/-! ## Tasks after a move -/

theorem attends?_eq_bind (load : Workload) (id : Nat) :
    load.attends? id = (load.task? id).bind EngineTask.attends? := by
  cases h : load.tasks[id]? <;> simp [attends?, task?, h, Standing.attends?_eq_bind]

theorem lt_of_task? {task : EngineTask} (h : load.task? id = some task) :
    id < load.tasks.length := by
  by_contra hlt
  simp [task?, List.getElem?_eq_none (Nat.le_of_not_gt hlt)] at h

theorem ne_cancelled_of_task? {task : EngineTask} (h : load.task? id = some task) :
    load.tasks[id]? ≠ some .cancelled := by
  intro hcancelled
  simp [task?, hcancelled, Standing.task?] at h

theorem attends?_enlist (load : Workload) (turn : Turn) :
    (load.enlist turn).attends? =
      Function.update load.attends? load.tasks.length turn.progress.attends? := by
  funext id
  rcases eq_or_ne id load.tasks.length with rfl | hne
  · simp [attends?, enlist, Standing.attends?]
  · rw [Function.update_of_ne hne]
    rcases Nat.lt_or_gt_of_ne hne with hlt | hgt
    · simp [attends?, enlist, List.getElem?_append_left hlt]
    · have hout : (load.tasks ++ [Standing.reached turn.progress]).length ≤ id := by
        simpa using Nat.succ_le_of_lt hgt
      simp [attends?, enlist, List.getElem?_eq_none hout, List.getElem?_eq_none hgt.le]

theorem attends?_set (engine : Engine) (standing : Standing) (hid : id < load.tasks.length) :
    (Workload.mk engine (load.tasks.set id standing)).attends? =
      Function.update load.attends? id standing.attends? := by
  funext other
  rcases eq_or_ne other id with rfl | hne
  · simp [attends?, hid]
  · rw [Function.update_of_ne hne]
    simp [attends?, List.getElem?_set_ne hne.symm]

/-- A move changes no other task than the one that it is about. -/
theorem getElem?_step_of_ne {move : Move} (hne : move.task? ≠ some id)
    (hlt : id < load.tasks.length) : (load.step setup move).tasks[id]? = load.tasks[id]? := by
  cases move with
  | start job => exact List.getElem?_append_left hlt
  | dispose => exact List.getElem?_append_left hlt
  | clearCache => rfl
  | register kind => rfl
  | resume other answer =>
    have hother : other ≠ id := fun h => hne (congrArg some h)
    rw [step]
    split
    · exact List.getElem?_set_ne hother
    · rfl
  | cancel other =>
    have hother : other ≠ id := fun h => hne (congrArg some h)
    rw [step]
    split
    · exact List.getElem?_set_ne hother
    · rfl

/-- A task that is cancelled stays so. -/
theorem cancelled_step (h : load.tasks[id]? = some .cancelled) (move : Move) :
    (load.step setup move).tasks[id]? = some .cancelled := by
  have htask : load.task? id = none := by simp [task?, h, Standing.task?]
  by_cases hmove : move.task? = some id
  · cases move with
    | resume other answer =>
      obtain rfl : other = id := Option.some.inj hmove
      simpa [step, htask] using h
    | cancel other =>
      obtain rfl : other = id := Option.some.inj hmove
      simpa [step, htask] using h
    | start _ | dispose | clearCache | register _ => cases hmove
  · rw [getElem?_step_of_ne hmove (List.getElem?_eq_some_iff.mp h).1, h]

/-! ## What a step does to the messages -/

/-- What a step does to the tables of messages and to the attended flights: it leaves them alone;
or it clears the cache; or a task that attends no flight has a turn; or a task leaves the flight
that it attends, and goes on or is cancelled. -/
inductive Shift (setup : EngineSetup) (load : Workload) (move : Move) (next : Workload) : Prop
  | rests (processed : next.engine.processed = load.engine.processed)
      (inFlight : next.engine.inFlight = load.engine.inFlight)
      (flights : next.engine.flights = load.engine.flights)
      (seats : next.attends? = load.attends?) (unsent : load.sent? move = none)
  | clears (cleared : move = .clearCache) (processed : next.engine.processed = [])
      (inFlight : next.engine.inFlight = load.engine.inFlight)
      (flights : next.engine.flights = load.engine.flights)
      (seats : next.attends? = load.attends?)
  | enters (id : Nat) (seat : Option Attendance) (idle : load.attends? id = none)
      (live : load.tasks[id]? ≠ some .cancelled)
      (opens : load.engine.Enters setup.retry next.engine seat)
      (seats : next.attends? = Function.update load.attends? id seat)
      (unsent : load.sent? move = none)
  | leaves (id : Nat) (a : Attendance) (landing : Landing) (seat : Option Attendance)
      (attending : load.attends? id = some a) (moved : move.task? = some id)
      (waited : a.part = .waiter → next.tasks[id]? = some .cancelled ∨
        load.engine.landing? a.flight = some landing)
      (opens : (load.engine.conclude a landing).Enters setup.retry next.engine seat)
      (seats : next.attends? = Function.update load.attends? id seat)
      (sent : load.sent? move =
        if a.part = .sender ∧ landing = .delivered then some a.message else none)

theorem shift_enlist {turn : Turn} {move : Move} (hunsent : load.sent? move = none)
    (h : load.engine.Opens setup.retry turn) : load.Shift setup move (load.enlist turn) := by
  refine .enters load.tasks.length turn.progress.attends? ?_ ?_ h (attends?_enlist load turn)
    hunsent
  · simp [attends?]
  · simp

theorem shift_resume (load : Workload) (id : Nat) (answer : Answer) :
    load.Shift setup (.resume id answer) (load.step setup (.resume id answer)) := by
  cases htask : load.task? id with
  | none =>
    simp only [step, htask]
    exact .rests rfl rfl rfl rfl (by simp [sent?, htask])
  | some task =>
    have hlt := lt_of_task? htask
    have hat : load.attends? id = task.attends? := by simp [attends?_eq_bind, htask]
    have hsent : load.sent? (.resume id answer) =
        if answer.succeeds then task.calling? else none := by simp [sent?, htask]
    simp only [step, htask]
    cases ha : task.attends? with
    | none =>
      have hunsent : load.sent? (.resume id answer) = none := by
        simp [hsent, EngineTask.calling?_of_attends? ha]
      exact .enters id _ (hat.trans ha) (ne_cancelled_of_task? htask)
        (Engine.opens_resume ha answer) (attends?_set _ _ hlt) hunsent
    | some a =>
      rw [ha] at hat
      rw [@Engine.calling?_eq_of_attends? setup.retry load.engine task a answer ha] at hsent
      -- a retried call that goes on and a flight that has not landed leave everything as it is
      cases hv : load.engine.verdict? setup.retry task answer with
      | none =>
        obtain ⟨hengine, hattends⟩ := Engine.resume_of_no_verdict ha hv
        have hseats : (load.advance id (load.engine.resume setup task answer)).attends? =
            load.attends? := by
          rw [advance, attends?_set _ _ hlt, Standing.attends?, hattends, ← hat,
            Function.update_eq_self]
        exact .rests (by rw [advance, hengine]) (by rw [advance, hengine])
          (by rw [advance, hengine]) hseats (by simpa [hv] using hsent)
      | some landing =>
        exact .leaves id a landing _ hat rfl
          (fun hwaiter => .inr (Engine.verdict?_of_waiter ha hwaiter ▸ hv))
          (Engine.opens_resume_of_verdict ha hv) (attends?_set _ _ hlt) (by simpa [hv] using hsent)

theorem shift_cancel (load : Workload) (id : Nat) :
    load.Shift setup (.cancel id) (load.step setup (.cancel id)) := by
  cases htask : load.task? id with
  | none =>
    simp only [step, htask]
    exact .rests rfl rfl rfl rfl rfl
  | some task =>
    have hlt := lt_of_task? htask
    have hat : load.attends? id = task.attends? := by simp [attends?_eq_bind, htask]
    simp only [step, htask, Engine.cancel_eq]
    cases ha : task.attends? with
    | none =>
      exact .enters id none (hat.trans ha) (ne_cancelled_of_task? htask) (.of_none rfl)
        (attends?_set _ _ hlt) rfl
    | some a =>
      exact .leaves id a (.failed Engine.cancelledMessage) none (hat.trans ha) rfl
        (fun _ => .inl (List.getElem?_set_self hlt)) (.of_none rfl) (attends?_set _ _ hlt)
        (by simp [sent?])

/-- Every step is a shift. -/
theorem shift_step (setup : EngineSetup) (load : Workload) (move : Move) :
    load.Shift setup move (load.step setup move) := by
  cases move with
  | start job => exact shift_enlist rfl (Engine.opens_start job)
  | dispose => exact shift_enlist rfl Engine.opens_dispose
  | clearCache => exact .clears rfl rfl rfl rfl rfl
  | register kind => exact .rests rfl rfl rfl rfl rfl
  | resume id answer => exact shift_resume load id answer
  | cancel id => exact shift_cancel load id

/-! ## What tasks ask for -/

/-- Every task of a workload that waits asks for what belongs to it. -/
def Asks (load : Workload) : Prop := ∀ progress, .reached progress ∈ load.tasks → progress.Asks

theorem asks_enlist (h : load.Asks) {turn : Turn} (hturn : turn.progress.Asks) :
    (load.enlist turn).Asks := by
  intro progress hmem
  rcases List.mem_append.mp hmem with hmem | hmem
  · exact h progress hmem
  · obtain rfl : progress = turn.progress := by simpa using hmem
    exact hturn

theorem asks_step (h : load.Asks) (move : Move) : (load.step setup move).Asks := by
  cases move with
  | start job => exact asks_enlist h (Engine.asks_start job)
  | dispose => exact asks_enlist h Engine.asks_dispose
  | clearCache => exact h
  | register kind => exact h
  | resume id answer =>
    rw [step]
    split
    next task htask =>
      intro progress hmem
      rcases List.mem_or_eq_of_mem_set hmem with hmem | heq
      · exact h progress hmem
      · rw [Standing.reached.inj heq]
        exact Engine.asks_resume task answer
    next htask => exact h
  | cancel id =>
    rw [step]
    split
    next task htask =>
      intro progress hmem
      exact h progress ((List.mem_or_eq_of_mem_set hmem).resolve_right (by simp))
    next htask => exact h

theorem asks_run (moves : List Move) : (initial.run setup moves).Asks :=
  run_induction (P := fun _ load => load.Asks) (by intro progress hmem; cases hmem)
    (fun _ _ move h => asks_step h move) moves

/-- A task that waits has asked for something. -/
theorem Asks.exists_request (h : load.Asks) {task : EngineTask}
    (htask : load.task? id = some task) :
    ∃ request, load.tasks[id]? = some (.reached (.waiting task request)) ∧ task.Asks request := by
  obtain ⟨standing, hstanding, htask⟩ := Option.bind_eq_some_iff.mp htask
  rcases standing with (⟨task', request⟩ | result) | _
  · obtain rfl : task' = task := Option.some.inj htask
    exact ⟨request, hstanding, h _ (List.mem_of_getElem? hstanding)⟩
  · cases htask
  · cases htask

end Workload

end Automation
