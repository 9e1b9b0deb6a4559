import Automation.Proofs.Service.Deployment
import Automation.Proofs.Sync.Workload
import Mathlib.Data.List.Nodup
import Mathlib.Data.List.Pairwise

/-!
# Pending applications

An application in the background is pending from the moment at which it is scheduled until its end
is noted, some time after it is over. In between it is counted although nothing of it is left to
do, so the applications that are pending are those that go on and those whose end is yet to be
noted. A task that drains the service looks at them whenever it has a turn, and is done only when
there are none.

## Main definitions

* `Service.Enrols` — the applications that a turn schedules are pending after it, under the next
  numbers.
* `Deployment.notes?` — the application whose end is noted with a move.
* `Deployment.unfinished`, `Deployment.unnoted` — how many applications are not over, and how many
  are over but not noted to be.
* `Deployment.Roll` — the applications of a run and those of them that are pending.

## Main statements

* `Service.enrols_start`, `Service.enrols_resume` — every turn enrols what it schedules.
* `Deployment.roll_run` — the roll of applications is right after every run.
* `Deployment.Roll.length_pending` — the count of pending applications.
* `Deployment.DrainsWait.finishes_iff` — when a drain is done.
-/

namespace Automation

/-! ## Turns -/

/-- The applications that a turn schedules have the next numbers, and are pending after it. Nothing
else about the pending applications changes with a turn. -/
structure Service.Enrols (service : Service) (turn : ServiceTurn) : Prop where
  numbers : turn.scheduled.map Prod.fst =
    List.range' service.pipeline.scheduled turn.scheduled.length
  pending : turn.service.pipeline.pending =
    service.pipeline.pending ++ turn.scheduled.map Prod.fst
  scheduled : turn.service.pipeline.scheduled =
    service.pipeline.scheduled + turn.scheduled.length

namespace Service

variable {setup : ServiceSetup} {service : Service}

/-- A turn that schedules nothing leaves what is pending as it was. -/
theorem Enrols.of_none {turn : ServiceTurn} (hnone : turn.scheduled = [])
    (hpending : turn.service.pipeline.pending = service.pipeline.pending)
    (hscheduled : turn.service.pipeline.scheduled = service.pipeline.scheduled) :
    service.Enrols turn where
  numbers := by rw [hnone]; rfl
  pending := by rw [hpending, hnone]; exact (List.append_nil _).symm
  scheduled := by rw [hscheduled, hnone]; rfl

theorem Enrols.withEntries {turn : ServiceTurn} (h : service.Enrols turn)
    (entries : List LogEntry) : service.Enrols { turn with entries } :=
  ⟨h.numbers, h.pending, h.scheduled⟩

theorem enrols_record (draft : EventDraft) : service.Enrols (record setup service draft) := by
  rcases hstore : service.store.append setup.now draft with ⟨_ | event, store⟩
  · simp only [record, hstore]
    exact .of_none rfl rfl rfl
  · simp only [record, hstore]
    exact ⟨rfl, rfl, rfl⟩

theorem enrols_drain : service.Enrols service.drain := by
  rw [drain]
  split
  · exact .of_none rfl rfl rfl
  · exact .of_none rfl rfl rfl

theorem enrols_ofBackgroundTurn (number : Nat) (event : Event) (turn : ApplicationTurn) :
    service.Enrols (ofBackgroundTurn setup service number event turn) := by
  rcases turn with ⟨engine, entries, ⟨application, request⟩ | (failure | actions)⟩
  · exact .of_none rfl rfl rfl
  · exact .of_none rfl rfl rfl
  · exact .of_none rfl rfl rfl

theorem enrols_start (call : ServiceCall) : service.Enrols (service.start setup call) := by
  cases call with
  | record draft =>
    refine Enrols.withEntries ?_ _
    split
    · exact .of_none rfl rfl rfl
    · exact enrols_record draft
  | query tenantId filter? =>
    refine Enrols.withEntries ?_ _
    split
    · exact .of_none rfl rfl rfl
    · exact .of_none rfl rfl rfl
  | drain => exact enrols_drain
  | background number event =>
    rw [start]
    exact enrols_ofBackgroundTurn number event _
  | job _ | dispose | find _ | apply _ => exact .of_none rfl rfl rfl

theorem enrols_resume (task : ServiceTask) (answer : Answer) :
    service.Enrols (service.resume setup task answer) := by
  cases task with
  | recording draft => exact enrols_record draft
  | draining => exact enrols_drain
  | background number event application => exact enrols_ofBackgroundTurn number event _
  | finding tenantId => cases answer <;> exact .of_none rfl rfl rfl
  | engine _ | applying _ | querying _ _ => exact .of_none rfl rfl rfl

/-- A drain looks at what is pending, and changes nothing. -/
theorem drain_finishes_iff {result : Except Failure ServiceResult} :
    service.drain.progress = .finished result ↔
      service.pipeline.pending = [] ∧ result = .ok .nothing := by
  rw [drain]
  split
  next h => simp [finish, List.isEmpty_iff.mp h, eq_comm]
  next h => simp [wait, mt List.isEmpty_iff.mpr h]

theorem service_drain : service.drain.service = service := by
  rw [drain]
  split <;> rfl

end Service

/-- The number of the application that a task runs in the background. -/
def Assignment.number? (task : Assignment) : Option Nat := task.call.application?.map Prod.fst

namespace Deployment

/-- The application whose end is noted with a move. -/
def notes? (site : Deployment) : ServiceMove → Option Nat
  | .noteEnd id => site.tasks[id]?.bind fun task =>
      if task.stage.isOver then task.number? else none
  | _ => none

/-- The numbers of the applications that were ever scheduled, in order. -/
def numbers (site : Deployment) : List Nat := site.tasks.filterMap Assignment.number?

/-- The applications whose ends have been noted in some steps, in order. -/
def noted (steps : List ServiceStep) : List Nat := steps.filterMap fun s => s.before.notes? s.move

/-- How many applications are not over. -/
def unfinished (site : Deployment) : Nat :=
  site.tasks.countP fun task => task.number?.isSome && !task.stage.isOver

/-- How many applications are over after some steps, but have not been noted to be. -/
def unnoted (steps : List ServiceStep) (site : Deployment) : Nat :=
  site.tasks.countP fun task => task.stage.isOver && task.number?.any (· ∉ noted steps)

/-- The applications of a run have the first numbers, each its own; those are pending whose end has
not been noted, and only what is over has been noted. -/
structure Roll (steps : List ServiceStep) (site : Deployment) : Prop where
  numbers : site.numbers = List.range site.service.pipeline.scheduled
  pending : site.service.pipeline.pending =
    (List.range site.service.pipeline.scheduled).filter (· ∉ noted steps)
  noted_lt : ∀ number ∈ noted steps, number < site.service.pipeline.scheduled
  noted_over : ∀ task ∈ site.tasks, ∀ number ∈ noted steps, task.number? = some number →
    task.stage.isOver = true

variable {site : Deployment} {steps : List ServiceStep} {move : ServiceMove} {id : Nat}
  {call : ServiceCall} {turn : ServiceTurn}

/-! ## Steps -/

theorem enrols_of_turn? (h : site.turn? move = some (id, call, turn)) :
    site.service.Enrols turn := by
  obtain ⟨-, -, rfl⟩ | ⟨answer, task, request, -, -, rfl⟩ := turn?_eq_some_iff.mp h
  · exact Service.enrols_start call
  · exact Service.enrols_resume task _

theorem noted_concat (after : Deployment) :
    noted (steps ++ [⟨site, move, after⟩]) = noted steps ++ (site.notes? move).toList :=
  filterMap_concat _ _ _

/-- No end is noted with a turn. -/
theorem notes?_of_turn? (h : site.turn? move = some (id, call, turn)) : site.notes? move = none := by
  obtain ⟨rfl, -⟩ | ⟨answer, task, request, rfl, -⟩ := turn?_eq_some_iff.mp h
  · rfl
  · rfl

theorem numbers_advance (h : site.turn? move = some (id, call, turn)) :
    (site.advance id call turn).numbers = site.numbers ++ turn.scheduled.map Prod.fst := by
  obtain ⟨stage, htask, -⟩ := getElem?_of_turn? h
  have hset : (site.tasks.set id ⟨call, .reached turn.progress⟩).filterMap Assignment.number? =
      site.numbers := filterMap_set htask rfl
  have hscheduled : (turn.scheduled.map Assignment.ofApplication).filterMap Assignment.number? =
      turn.scheduled.map Prod.fst := by
    rw [List.filterMap_map]
    exact congrFun List.filterMap_eq_map turn.scheduled
  rw [numbers, advance, List.filterMap_append, hset, hscheduled]

/-- Applications are told apart by their numbers. -/
theorem eq_of_number? (hnodup : site.numbers.Nodup) {task other : Assignment} {number : Nat}
    (htask : task ∈ site.tasks) (hother : other ∈ site.tasks)
    (hnumber : task.number? = some number) (hsame : other.number? = some number) :
    task = other := by
  have hdistinct : site.tasks.Pairwise fun a b => ∀ n, a.number? = some n → b.number? ≠ some n :=
    (List.pairwise_filterMap.mp hnodup).imp fun h n ha hb => h n ha n hb rfl
  have : Std.Symm fun a b : Assignment => ∀ n, a.number? = some n → b.number? = some n → a = b :=
    ⟨fun a b h n hb ha => (h n ha hb).symm⟩
  exact List.Pairwise.forall_of_forall (R := fun a b : Assignment =>
      ∀ n, a.number? = some n → b.number? = some n → a = b)
    (fun _ _ _ _ _ => rfl) (hdistinct.imp fun h n ha hb => absurd hb (h n ha)) htask hother
    number hnumber hsame

/-- The roll goes on with a turn of a task. -/
theorem Roll.advance (h : Roll steps site) (hturn : site.turn? move = some (id, call, turn)) :
    Roll (steps ++ [⟨site, move, site.step move⟩]) (site.step move) := by
  have hnoted : noted (steps ++ [⟨site, move, site.step move⟩]) = noted steps := by
    rw [noted_concat, notes?_of_turn? hturn]
    exact List.append_nil _
  have henrols := enrols_of_turn? hturn
  have hrange : List.range turn.service.pipeline.scheduled =
      List.range site.service.pipeline.scheduled ++ turn.scheduled.map Prod.fst := by
    rw [henrols.scheduled, henrols.numbers, List.range_eq_range', List.range_eq_range',
      ← List.range'_append_1, Nat.zero_add]
  have hfresh : ∀ number ∈ turn.scheduled.map Prod.fst, number ∉ noted steps := by
    intro number hnumber hmem
    rw [henrols.numbers, List.mem_range'_1] at hnumber
    exact absurd (h.noted_lt number hmem) (Nat.not_lt.mpr hnumber.1)
  rw [step_of_turn? hturn] at hnoted ⊢
  refine ⟨?_, ?_, ?_, ?_⟩
  · rw [numbers_advance hturn, h.numbers]
    exact hrange.symm
  · rw [hnoted]
    change turn.service.pipeline.pending = (List.range turn.service.pipeline.scheduled).filter _
    rw [hrange, List.filter_append, ← h.pending, henrols.pending,
      List.filter_eq_self.mpr fun number hnumber => decide_eq_true (hfresh number hnumber)]
  · rw [hnoted]
    intro number hnumber
    exact (h.noted_lt number hnumber).trans_le (henrols.scheduled ▸ Nat.le_add_right _ _)
  · rw [hnoted]
    intro task htask number hnumber hsome
    rcases List.mem_append.mp htask with htask | htask
    · rcases List.mem_or_eq_of_mem_set htask with htask | rfl
      · exact h.noted_over task htask number hnumber hsome
      · -- the task had a turn, so it was not over before
        obtain ⟨stage, hbefore, hstage⟩ := getElem?_of_turn? hturn
        have hover := h.noted_over _ (List.mem_of_getElem? hbefore) number hnumber hsome
        exact absurd (hstage.symm.trans hover) Bool.false_ne_true
    · obtain ⟨application, happlication, rfl⟩ := List.mem_map.mp htask
      obtain rfl : application.1 = number := Option.some.inj hsome
      exact absurd hnumber (hfresh _ (List.mem_map_of_mem happlication))

/-- The roll stays as it is with a move that notes no end, and ends some applications at most. -/
theorem Roll.of_same (h : Roll steps site) {next : Deployment} (hnotes : site.notes? move = none)
    (hpipeline : next.service.pipeline = site.service.pipeline)
    (hnumbers : next.numbers = site.numbers)
    (htasks : ∀ task ∈ next.tasks,
      task ∈ site.tasks ∨ task.number? = none ∨ task.stage.isOver = true) :
    Roll (steps ++ [⟨site, move, next⟩]) next := by
  have hnoted : noted (steps ++ [⟨site, move, next⟩]) = noted steps := by
    rw [noted_concat, hnotes]
    exact List.append_nil _
  refine ⟨?_, ?_, ?_, ?_⟩
  · rw [hnumbers, hpipeline, h.numbers]
  · rw [hnoted, hpipeline, h.pending]
  · rw [hnoted, hpipeline]
    exact h.noted_lt
  · rw [hnoted]
    intro task htask number hnumber hsome
    rcases htasks task htask with htask | hnone | hover
    · exact h.noted_over task htask number hnumber hsome
    · exact absurd (hnone.symm.trans hsome) nofun
    · exact hover

/-- An application that is over is struck off when its end is noted. -/
theorem Roll.strike (h : Roll steps site) {number : Nat} {event : Event} {stage : Stage}
    (htask : site.tasks[id]? = some ⟨.background number event, stage⟩)
    (hover : stage.isOver = true) (hnotes : site.notes? move = some number) {next : Deployment}
    (hnext : next = { site with service := site.service.noteEnd number }) :
    Roll (steps ++ [⟨site, move, next⟩]) next := by
  have hmem : ⟨.background number event, stage⟩ ∈ site.tasks := List.mem_of_getElem? htask
  have hnumber : number ∈ site.numbers := List.mem_filterMap.mpr ⟨_, hmem, rfl⟩
  have hnodup : site.numbers.Nodup := h.numbers ▸ List.nodup_range
  have hcases : ∀ other ∈ noted (steps ++ [⟨site, move, next⟩]),
      other ∈ noted steps ∨ other = number := by
    intro other hother
    rw [noted_concat, hnotes] at hother
    simpa using hother
  subst hnext
  refine ⟨h.numbers, ?_, ?_, ?_⟩
  · change site.service.pipeline.pending.filter (· ≠ number) = _
    rw [h.pending, List.filter_filter, noted_concat, hnotes]
    refine List.filter_congr fun other _ => ?_
    simp [and_comm]
  · intro other hother
    rcases hcases other hother with hother | rfl
    · exact h.noted_lt other hother
    · exact List.mem_range.mp (h.numbers ▸ hnumber)
  · intro task htask other hother hsome
    rcases hcases other hother with hother | rfl
    · exact h.noted_over task htask other hother hsome
    · -- no other application has the number
      rw [eq_of_number? hnodup htask hmem hsome rfl]
      exact hover

theorem number?_of_application?_eq_none (h : call.application? = none) (stage : Stage) :
    (⟨call, stage⟩ : Assignment).number? = none := by
  rw [Assignment.number?, h]
  rfl

/-- A task that is cancelled is over. -/
theorem Roll.drop (h : Roll steps site) {task : Assignment} (htask : site.tasks[id]? = some task)
    (hnotes : site.notes? move = none) :
    Roll (steps ++ [⟨site, move, site.drop id task⟩]) (site.drop id task) := by
  obtain ⟨call, stage⟩ := task
  have hnumbers : (site.tasks.set id ⟨call, .cancelled⟩).filterMap Assignment.number? =
      site.numbers := filterMap_set htask rfl
  have htasks : ∀ task ∈ site.tasks.set id ⟨call, .cancelled⟩,
      task ∈ site.tasks ∨ task.number? = none ∨ task.stage.isOver = true := by
    intro task hmem
    rcases List.mem_or_eq_of_mem_set hmem with hmem | rfl
    · exact .inl hmem
    · exact .inr (.inr rfl)
  cases stage with
  | scheduled => exact h.of_same hnotes rfl hnumbers htasks
  | cancelled => exact h.of_same hnotes rfl rfl fun _ => .inl
  | reached progress =>
    cases progress with
    | finished result => exact h.of_same hnotes rfl rfl fun _ => .inl
    | waiting waits request =>
      rw [Deployment.drop]
      split
      · exact h.of_same hnotes rfl rfl fun _ => .inl
      · refine h.of_same hnotes ?_ hnumbers htasks
        cases waits <;> rfl

/-- The roll goes on when it is noted that a task is over, or looked for. -/
theorem Roll.note (h : Roll steps site) {task : Assignment}
    (htask : site.tasks[id]? = some task) :
    Roll (steps ++ [⟨site, .noteEnd id, site.note task⟩]) (site.note task) := by
  have hnotes : site.notes? (.noteEnd id) = if task.stage.isOver then task.number? else none := by
    rw [notes?, htask, Option.bind_some]
  obtain ⟨call, stage⟩ := task
  cases call with
  | background number event =>
    rw [Deployment.note]
    split
    next hover => exact h.strike htask hover (hnotes.trans (if_pos hover)) rfl
    next hover => exact h.of_same (hnotes.trans (if_neg hover)) rfl rfl fun _ => .inl
  | job _ | dispose | find _ | apply _ | record _ | query _ _ | drain =>
    exact h.of_same (hnotes.trans (ite_self _)) rfl rfl fun _ => .inl

/-- The roll goes on with a move that is no turn. -/
theorem Roll.shift (h : Roll steps site) (move : ServiceMove) :
    Roll (steps ++ [⟨site, move, site.shift move⟩]) (site.shift move) := by
  cases move with
  | ask call =>
    rw [Deployment.shift]
    split
    next hnone =>
      have hnumber := number?_of_application?_eq_none hnone .scheduled
      refine h.of_same rfl rfl ?_ fun task htask => ?_
      · simp [Deployment.numbers, hnumber]
      · rcases List.mem_append.mp htask with htask | htask
        · exact .inl htask
        · rw [List.mem_singleton.mp htask]
          exact .inr (.inl hnumber)
    next => exact h.of_same rfl rfl rfl fun _ => .inl
  | cancel id =>
    rw [Deployment.shift]
    cases htask : site.tasks[id]? with
    | none => exact h.of_same rfl rfl rfl fun _ => .inl
    | some task => exact h.drop htask rfl
  | noteEnd id =>
    rw [Deployment.shift]
    cases htask : site.tasks[id]? with
    | none => exact h.of_same (by rw [notes?, htask]; rfl) rfl rfl fun _ => .inl
    | some task => exact h.note htask
  | launch _ | resume _ _ | configure _ | clearCache | register _ | disrupt _ | obstruct _ | tick _ =>
    exact h.of_same rfl rfl rfl fun _ => .inl

theorem Roll.step (h : Roll steps site) (move : ServiceMove) :
    Roll (steps ++ [⟨site, move, site.step move⟩]) (site.step move) := by
  cases hturn : site.turn? move with
  | some entry =>
    obtain ⟨id, call, turn⟩ := entry
    exact h.advance hturn
  | none =>
    rw [step_of_idle hturn]
    exact h.shift move

theorem roll_initial (setup : ServiceSetup) (tenants : List (String × Tenant))
    (backend : StoreBackend) : Roll [] (initial setup tenants backend) where
  numbers := rfl
  pending := rfl
  noted_lt := by
    intro number hnumber
    cases hnumber
  noted_over := by
    intro task htask
    cases htask

theorem roll_run (setup : ServiceSetup) (tenants : List (String × Tenant))
    (backend : StoreBackend) (moves : List ServiceMove) :
    Roll ((initial setup tenants backend).steps moves)
      ((initial setup tenants backend).run moves) :=
  run_induction (P := Roll) (roll_initial setup tenants backend) (fun _ _ move h => h.step move)
    moves

/-- The applications that are pending are those that are not over and those that are over but have
not been noted to be. -/
theorem Roll.length_pending (h : Roll steps site) :
    site.service.pipeline.pending.length = site.unfinished + site.unnoted steps := by
  have hpending : site.service.pipeline.pending.length =
      site.tasks.countP fun task => task.number?.any (· ∉ noted steps) := by
    rw [h.pending, ← h.numbers, ← List.countP_eq_length_filter, Deployment.numbers,
      List.countP_filterMap]
    refine List.countP_congr fun task _ => ?_
    cases task.number? <;> rfl
  have hgoing : site.unfinished = site.tasks.countP fun task =>
      task.number?.any (· ∉ noted steps) && !task.stage.isOver := by
    refine List.countP_congr fun task htask => ?_
    cases hnumber : task.number? with
    | none => simp
    | some number =>
      -- what is not over has not been noted
      have hnoted := h.noted_over task htask number
      cases hover : task.stage.isOver with
      | true => simp
      | false => simpa [hover, hnumber] using hnoted
  rw [hpending, hgoing, unnoted, List.countP_eq_countP_filter_add site.tasks _ fun task =>
    !task.stage.isOver, List.countP_filter, List.countP_filter]
  congr 1
  refine List.countP_congr fun task _ => ?_
  rw [Bool.not_not, Bool.and_comm]

/-- Nothing is pending only when all applications are over. -/
theorem Roll.over_of_pending (h : Roll steps site) (hpending : site.service.pipeline.pending = [])
    {number : Nat} {event : Event} {stage : Stage}
    (htask : ⟨.background number event, stage⟩ ∈ site.tasks) : stage.isOver = true := by
  have hunfinished : site.unfinished = 0 := by
    have hlength := h.length_pending
    rw [hpending, List.length_nil] at hlength
    omega
  by_contra hover
  refine List.countP_eq_zero.mp hunfinished _ htask ?_
  rw [Bool.eq_false_iff.mpr hover]
  rfl

/-! ## Drains -/

/-- A drain waits for the applications and for nothing else. -/
def DrainsWait (site : Deployment) : Prop :=
  ∀ (id : Nat) (task : ServiceTask) (request : Request),
    site.tasks[id]? = some ⟨.drain, .reached (.waiting task request)⟩ → task = .draining

/-- Whenever a drain has a turn, it looks at what is pending. -/
theorem DrainsWait.turn_eq (h : site.DrainsWait) (hturn : site.turn? move = some (id, .drain, turn)) :
    turn = site.service.drain := by
  obtain ⟨-, -, rfl⟩ | ⟨answer, task, request, -, htask, rfl⟩ := turn?_eq_some_iff.mp hturn
  · rfl
  · rw [h id task request htask]
    rfl

theorem DrainsWait.step (h : site.DrainsWait) (move : ServiceMove) :
    (site.step move).DrainsWait := by
  intro id task request htask
  rcases reached_step htask with htask | ⟨turn, hturn, hprogress⟩
  · exact h id task request htask
  · rw [h.turn_eq hturn, Service.drain] at hprogress
    split at hprogress
    · cases hprogress
    · cases hprogress
      rfl

theorem drainsWait_run (setup : ServiceSetup) (tenants : List (String × Tenant))
    (backend : StoreBackend) (moves : List ServiceMove) :
    ((initial setup tenants backend).run moves).DrainsWait := by
  refine run_induction (P := fun _ site => site.DrainsWait) ?_ (fun _ _ move h => h.step move) moves
  intro id task request htask
  cases htask

/-- A drain is done with a turn if nothing is pending then, and otherwise waits on. Its turns change
nothing about what is pending. -/
theorem DrainsWait.finishes_iff (h : site.DrainsWait)
    (hturn : site.turn? move = some (id, .drain, turn)) {result : Except Failure ServiceResult} :
    turn.progress = .finished result ↔
      (site.step move).service.pipeline.pending = [] ∧ result = .ok .nothing := by
  have hservice : (site.step move).service = site.service := by
    rw [step_of_turn? hturn, h.turn_eq hturn]
    exact Service.service_drain
  rw [hservice, h.turn_eq hturn]
  exact Service.drain_finishes_iff

end Deployment

end Automation
