import Automation.Proofs.Sync.Clients

/-!
# The pool of clients

Several tasks may need the client of a tenant at once, and the pool may be emptied between any two
of their turns. Still each client that was ever made is accounted for: it is pooled, or some task is
to close it or is closing it, or it has closed. Of several clients for one tenant, all jobs get the
one that was pooled first.

## Main definitions

* `Step.made?`, `Step.told?`, `Step.closed?` — the client that is made, told to close or closed with
  a step.
* `Step.given?` — the client that a job gets with a step.
* `Step.smooth` — nothing goes wrong with the closing of clients.
* `Workload.Conserved` — where all clients are that were ever made.

## Main statements

* `Workload.balanced_step` — no step loses or doubles a client.
* `Workload.books_run` — the books on all clients, after every run.
* `Workload.loyal_run` — whatever client a job was given is pooled, if nothing is disposed of.
* `Workload.conserved_run` — clients are conserved in every run in which closing goes well.
-/

namespace Automation

/-! ## Workloads -/

namespace Standing

/-- The client that a task waits for to be closed. -/
def closes? : Standing → Option Client
  | .reached progress => progress.closes?
  | .cancelled => none

/-- The clients that a task is going to close later. -/
def backlog : Standing → List Client
  | .reached progress => progress.backlog
  | .cancelled => []

end Standing

namespace Workload

/-- The clients in the pool. -/
def pooled (load : Workload) : List Client := load.engine.pool.map Prod.snd

/-- The clients that tasks wait for to be closed. -/
def underway (load : Workload) : List Client :=
  load.tasks.flatMap fun standing => standing.closes?.toList

/-- The clients that tasks are going to close later. -/
def backlog (load : Workload) : List Client := load.tasks.flatMap Standing.backlog

/-- The clients that are being closed: by and by, as tasks come to them. -/
def closing (load : Workload) : List Client := load.underway ++ load.backlog

/-- No task is on its way to a client, and none closes those that were pooled. -/
def Calm (load : Workload) : Prop := ∀ id task, load.task? id = some task → task.midway = false

/-- The client that is made with a move, with the tenant that it is for. -/
def makes? (setup : EngineSetup) (load : Workload) : Move → Option (String × Client)
  | .resume id answer => (load.task? id).bind fun task => load.engine.makes? setup task answer
  | .start _ | .dispose | .clearCache | .register _ | .cancel _ => none

/-- The client that a job gets with a move, with the tenant that it is for: the one that a bare
request for the client would get in its place. -/
def gives? (setup : EngineSetup) (load : Workload) : Move → Option (String × Client)
  | .start job =>
    (load.engine.start setup (.client job.tenantId)).progress.client?.map (job.tenantId, ·)
  | .resume id answer =>
    match load.task? id with
    | some (.resolving job) =>
      (load.engine.resume setup (.resolving (.client job.tenantId)) answer).progress.client?.map
        (job.tenantId, ·)
    | some (.closingSurplus job client) =>
      (load.engine.resume setup (.closingSurplus (.client job.tenantId) client)
        answer).progress.client?.map (job.tenantId, ·)
    | _ => none
  | .dispose | .clearCache | .register _ | .cancel _ => none

end Workload

namespace Step

/-- The client that is made with a step, with the tenant that it is for. -/
def made? (setup : EngineSetup) (s : Step) : Option (String × Client) :=
  s.before.makes? setup s.move

/-- The client that a job gets with a step, with the tenant that it is for. -/
def given? (setup : EngineSetup) (s : Step) : Option (String × Client) :=
  s.before.gives? setup s.move

/-- The client that is told with a step to close. -/
def told? (s : Step) : Option Client :=
  match s.move with
  | .start _ | .dispose => (s.after.tasks[s.before.tasks.length]?).bind Standing.closes?
  | .resume id _ => (s.after.tasks[id]?).bind Standing.closes?
  | .clearCache | .register _ | .cancel _ => none

/-- The client that has closed with a step. -/
def closed? (s : Step) : Option Client :=
  match s.move with
  | .resume id _ => (s.before.tasks[id]?).bind Standing.closes?
  | .start _ | .dispose | .clearCache | .register _ | .cancel _ => none

/-- Whether a step does without two mishaps: that a client fails to close, and that a task is
cancelled on its way to a client or while it closes those that were pooled. -/
def smooth (s : Step) : Bool :=
  match s.move with
  | .resume id (.failed _) => ((s.before.tasks[id]?).bind Standing.closes?).isNone
  | .cancel id => (s.before.task? id).all fun task => !task.midway
  | .resume _ _ | .start _ | .dispose | .clearCache | .register _ => true

end Step

namespace Workload

variable {setup : EngineSetup} {load : Workload}

theorem count_flatMap_set {α : Type} {f : α → List Client} {l : List α} {i : Nat} {a : α}
    (h : l[i]? = some a) (b : α) (client : Client) :
    ((l.set i b).flatMap f).count client + (f a).count client =
      (l.flatMap f).count client + (f b).count client := by
  induction l generalizing i with
  | nil => cases h
  | cons first rest ih =>
    cases i with
    | zero =>
      obtain rfl : first = a := Option.some.inj h
      simp only [List.set_cons_zero, List.flatMap_cons, List.count_append]
      omega
    | succ i =>
      have hrest := ih h
      simp only [List.set_cons_succ, List.flatMap_cons, List.count_append]
      omega

theorem closes?_eq_none_of_task? {id : Nat} (h : load.task? id = none) :
    (load.tasks[id]?).bind Standing.closes? = none := by
  cases hstanding : load.tasks[id]? with
  | none => rfl
  | some standing =>
    rw [task?, hstanding] at h
    rcases standing with (⟨task, request⟩ | result) | _
    · cases h
    · rfl
    · rfl

theorem exists_request {id : Nat} {task : EngineTask} (h : load.task? id = some task) :
    ∃ request, load.tasks[id]? = some (.reached (.waiting task request)) := by
  obtain ⟨standing, hstanding, htask⟩ := Option.bind_eq_some_iff.mp h
  rcases standing with (⟨waiting, request⟩ | result) | _
  · obtain rfl : waiting = task := Option.some.inj htask
    exact ⟨request, hstanding⟩
  · cases htask
  · cases htask

/-- The books on a client, before and after a step: what is pooled, left to be closed or told to
close was so before or has been made; what is being closed or has closed was so before or has been
told to. -/
structure Balanced (setup : EngineSetup) (s : Step) (client : Client) : Prop where
  clients : s.after.pooled.count client + s.after.backlog.count client +
      s.told?.toList.count client =
    s.before.pooled.count client + s.before.backlog.count client +
      ((s.made? setup).map Prod.snd).toList.count client
  closes : s.after.underway.count client + s.closed?.toList.count client =
    s.before.underway.count client + s.told?.toList.count client

theorem balanced_enlist {turn : Turn} {move : Move} {client : Client}
    (hmove : (∃ job, move = .start job) ∨ move = .dispose)
    (h : (turn.engine.pool.map Prod.snd).count client + turn.progress.backlog.count client +
      turn.progress.closes?.toList.count client = load.pooled.count client) :
    Balanced setup ⟨load, move, load.enlist turn⟩ client := by
  have htold : Step.told? ⟨load, move, load.enlist turn⟩ = turn.progress.closes? := by
    rcases hmove with ⟨job, rfl⟩ | rfl <;> simp [Step.told?, enlist, Standing.closes?]
  have hclosed : Step.closed? ⟨load, move, load.enlist turn⟩ = none := by
    rcases hmove with ⟨job, rfl⟩ | rfl <;> rfl
  have hmade : Step.made? setup ⟨load, move, load.enlist turn⟩ = none := by
    rcases hmove with ⟨job, rfl⟩ | rfl <;> rfl
  constructor
  · rw [htold, hmade]
    simp only [pooled, backlog, enlist, List.flatMap_append, List.count_append,
      List.flatMap_singleton, Standing.backlog, Option.map_none, Option.toList_none,
      List.count_nil] at h ⊢
    omega
  · rw [htold, hclosed]
    simp only [underway, enlist, List.flatMap_append, List.count_append, List.flatMap_singleton,
      Standing.closes?, Option.toList_none, List.count_nil]
    omega

theorem balanced_start (job : Job) (client : Client) :
    Balanced setup ⟨load, .start job, load.step setup (.start job)⟩ client := by
  have htrade : load.engine.Trades [] (load.engine.start setup job) none :=
    Engine.trades_start job
  have hturn := htrade.balance client
  refine balanced_enlist (.inl ⟨job, rfl⟩) ?_
  simpa [pooled] using hturn

theorem balanced_dispose (client : Client) :
    Balanced setup ⟨load, .dispose, load.step setup .dispose⟩ client := by
  have hcloses := congrArg (List.count client) load.engine.closes_dispose
  rw [List.count_append] at hcloses
  refine balanced_enlist (.inr rfl) ?_
  rw [Engine.engine_dispose, List.map_nil, List.count_nil, pooled]
  omega

theorem balanced_resume (id : Nat) (answer : Answer) (client : Client) :
    Balanced setup ⟨load, .resume id answer, load.step setup (.resume id answer)⟩ client := by
  cases htask : load.task? id with
  | none =>
    have hidle := closes?_eq_none_of_task? htask
    have hstep : load.step setup (.resume id answer) = load := by simp only [step, htask]
    rw [hstep]
    constructor
    · simp [Step.told?, Step.made?, makes?, htask, hidle]
    · simp [Step.told?, Step.closed?, hidle]
  | some task =>
    obtain ⟨request, hstanding⟩ := exists_request htask
    have hlt := lt_of_task? htask
    let turn := load.engine.resume setup task answer
    have hstep : load.step setup (.resume id answer) = load.advance id turn := by
      simp only [step, htask, turn]
    have htrade : load.engine.Trades task.backlog turn (load.engine.makes? setup task answer) :=
      Engine.trades_resume task answer
    have hturn := htrade.balance client
    have htold : Step.told? ⟨load, .resume id answer, load.advance id turn⟩ =
        turn.progress.closes? := by
      simp [Step.told?, advance, hlt, Standing.closes?]
    have hmade : Step.made? setup ⟨load, .resume id answer, load.advance id turn⟩ =
        load.engine.makes? setup task answer := by
      simp [Step.made?, makes?, htask]
    have hclosed : Step.closed? ⟨load, .resume id answer, load.advance id turn⟩ =
        (Progress.waiting task request).closes? := by
      simp [Step.closed?, hstanding, Standing.closes?]
    rw [hstep]
    -- the task is the only one whose share changes, so what all tasks hold changes with it
    constructor
    · have hset := @count_flatMap_set _ Standing.backlog _ _ _ hstanding (.reached turn.progress)
        client
      rw [htold, hmade]
      simp only [pooled, backlog, advance, Standing.backlog, Progress.backlog] at hset hturn ⊢
      omega
    · have hset := @count_flatMap_set _ (fun standing => standing.closes?.toList) _ _ _ hstanding
        (.reached turn.progress) client
      rw [htold, hclosed]
      simp only [underway, advance, Standing.closes?] at hset ⊢
      omega

theorem balanced_cancel (hasks : load.Asks) {id : Nat}
    (hsmooth : Step.smooth ⟨load, .cancel id, load.step setup (.cancel id)⟩ = true)
    (client : Client) :
    Balanced setup ⟨load, .cancel id, load.step setup (.cancel id)⟩ client := by
  cases htask : load.task? id with
  | none =>
    have hstep : load.step setup (.cancel id) = load := by simp only [step, htask]
    rw [hstep]
    exact ⟨rfl, rfl⟩
  | some task =>
    obtain ⟨request, hstanding, hrequest⟩ := hasks.exists_request htask
    have hmidway : task.midway = false := by simpa [Step.smooth, htask] using hsmooth
    have hstep : load.step setup (.cancel id) =
        ⟨load.engine.cancel task, load.tasks.set id .cancelled⟩ := by simp only [step, htask]
    have hpool : (load.engine.cancel task).pool = load.engine.pool := by cases task <;> rfl
    have hbacklog : (Standing.reached (.waiting task request)).backlog = [] :=
      EngineTask.backlog_of_midway hmidway
    have hcloses : (Standing.reached (.waiting task request)).closes? = none :=
      hrequest.closes?_of_midway hmidway
    rw [hstep]
    constructor
    · have hset := @count_flatMap_set _ Standing.backlog _ _ _ hstanding .cancelled client
      rw [hbacklog] at hset
      simp only [pooled, backlog, hpool, Standing.backlog] at hset ⊢
      exact congrArg (_ + · + 0) hset
    · have hset := @count_flatMap_set _ (fun standing => standing.closes?.toList) _ _ _ hstanding
        .cancelled client
      rw [hcloses] at hset
      exact hset

/-- No step loses or doubles a client. -/
theorem balanced_step (hasks : load.Asks) {move : Move}
    (hsmooth : Step.smooth ⟨load, move, load.step setup move⟩ = true) (client : Client) :
    Balanced setup ⟨load, move, load.step setup move⟩ client := by
  cases move with
  | start job => exact balanced_start job client
  | dispose => exact balanced_dispose client
  | clearCache => exact ⟨rfl, rfl⟩
  | register kind => exact ⟨rfl, rfl⟩
  | resume id answer => exact balanced_resume id answer client
  | cancel id => exact balanced_cancel hasks hsmooth client

/-- Of all moves, only disposing does more to clients than some turn does. -/
theorem trades_step {move : Move} (hmove : move ≠ .dispose) :
    ∃ backlog turn, load.engine.Trades backlog turn (load.makes? setup move) ∧
      (load.step setup move).engine.pool = turn.engine.pool ∧
      (load.step setup move).engine.created = turn.engine.created ∧
      ∀ progress, .reached progress ∈ (load.step setup move).tasks →
        .reached progress ∈ load.tasks ∨ progress = turn.progress := by
  -- in place of a turn, where there is none, stands one that ends at once
  have hrest : load.engine.Trades [] (load.engine.finish (.ok .acted)) none :=
    .rests rfl rfl rfl rfl
  cases move with
  | dispose => exact absurd rfl hmove
  | clearCache => exact ⟨_, _, hrest, rfl, rfl, fun _ hmem => .inl hmem⟩
  | register kind => exact ⟨_, _, hrest, rfl, rfl, fun _ hmem => .inl hmem⟩
  | start job =>
    refine ⟨_, _, Engine.trades_start job, rfl, rfl, fun progress hmem => ?_⟩
    rcases List.mem_append.mp hmem with hmem | hmem
    · exact .inl hmem
    · exact .inr (Standing.reached.inj (List.mem_singleton.mp hmem))
  | resume id answer =>
    rw [step, makes?]
    cases htask : load.task? id with
    | none => exact ⟨_, _, hrest, rfl, rfl, fun _ hmem => .inl hmem⟩
    | some task =>
      refine ⟨_, _, Engine.trades_resume task answer, rfl, rfl, fun progress hmem => ?_⟩
      rcases List.mem_or_eq_of_mem_set hmem with hmem | heq
      · exact .inl hmem
      · exact .inr (Standing.reached.inj heq)
  | cancel id =>
    rw [step, makes?]
    cases htask : load.task? id with
    | none => exact ⟨_, _, hrest, rfl, rfl, fun _ hmem => .inl hmem⟩
    | some task =>
      refine ⟨_, _, hrest, ?_, ?_, fun progress hmem => .inl ?_⟩
      · cases task <;> rfl
      · cases task <;> rfl
      · exact (List.mem_or_eq_of_mem_set hmem).resolve_right (by simp)

/-- Clients are numbered as they are made. -/
theorem created_step (move : Move) :
    (load.step setup move).engine.created =
        load.engine.created + (load.makes? setup move).toList.length ∧
      ∀ entry ∈ load.makes? setup move, entry.2.number = load.engine.created + 1 := by
  by_cases hmove : move = .dispose
  · rw [hmove, step, enlist, Engine.engine_dispose]
    simp [makes?]
  · obtain ⟨backlog, turn, htrade, -, hcreated, -⟩ := @trades_step setup load _ hmove
    rw [hcreated]
    exact htrade.created

/-- The clients that were made in a run, with the tenants that they are for. -/
def made (setup : EngineSetup) (steps : List Step) : List (String × Client) :=
  steps.filterMap (Step.made? setup)

/-- The clients that were told to close in a run. -/
def told (steps : List Step) : List Client := steps.filterMap Step.told?

/-- The clients that have closed in a run. -/
def closed (steps : List Step) : List Client := steps.filterMap Step.closed?

/-- The books on all clients after the steps of a run. -/
structure Books (setup : EngineSetup) (steps : List Step) (load : Workload) : Prop where
  asks : load.Asks
  keys : (load.engine.pool.map Prod.fst).Nodup
  listed : ∀ entry ∈ load.engine.pool, entry ∈ made setup steps
  numbers : (made setup steps).map (·.2.number) = List.range' 1 load.engine.created
  clients : ∀ client, load.pooled.count client + load.backlog.count client +
    (told steps).count client = ((made setup steps).map Prod.snd).count client
  closes : ∀ client, load.underway.count client + (closed steps).count client =
    (told steps).count client

theorem books_initial : Books setup [] initial where
  asks := by
    intro progress hmem
    cases hmem
  keys := List.nodup_nil
  listed := by
    intro entry hmem
    cases hmem
  numbers := rfl
  clients _ := rfl
  closes _ := rfl

variable {steps : List Step}

theorem Books.step (h : Books setup steps load) {move : Move}
    (hsmooth : Step.smooth ⟨load, move, load.step setup move⟩ = true) :
    Books setup (steps ++ [⟨load, move, load.step setup move⟩]) (load.step setup move) where
  asks := asks_step h.asks move
  keys := by
    by_cases hmove : move = .dispose
    · rw [hmove, Workload.step, enlist, Engine.engine_dispose]
      exact List.nodup_nil
    · obtain ⟨backlog, turn, htrade, hpool, -, -⟩ := @trades_step setup load _ hmove
      rw [hpool]
      exact htrade.nodup h.keys
  listed := by
    intro entry hmem
    rw [made, filterMap_concat]
    by_cases hmove : move = .dispose
    · rw [hmove, Workload.step, enlist, Engine.engine_dispose] at hmem
      cases hmem
    · obtain ⟨backlog, turn, htrade, hpool, -, -⟩ := @trades_step setup load _ hmove
      rw [hpool] at hmem
      rcases htrade.mem_pool hmem with hmem | hmade
      · exact List.mem_append_left _ (h.listed entry hmem)
      · exact List.mem_append_right _ (Option.mem_toList.mpr hmade)
  numbers := by
    obtain ⟨hcreated, hnumber⟩ := @created_step setup load move
    rw [made, filterMap_concat, List.map_append, ← made, h.numbers, hcreated]
    have hmade : Step.made? setup ⟨load, move, load.step setup move⟩ = load.makes? setup move := rfl
    rw [hmade]
    cases hmakes : load.makes? setup move with
    | none => simp
    | some entry =>
      have hentry : entry.2.number = load.engine.created + 1 := hnumber entry (by simp [hmakes])
      simp only [Option.toList_some, List.map_cons, List.map_nil, List.length_cons,
        List.length_nil, hentry]
      rw [List.range'_concat]
      simp [Nat.add_comm]
  clients client := by
    have hbalanced := (balanced_step h.asks hsmooth client).clients
    have hclients := h.clients client
    have hmap : (Step.made? setup ⟨load, move, load.step setup move⟩).toList.map Prod.snd =
        ((Step.made? setup ⟨load, move, load.step setup move⟩).map Prod.snd).toList := by
      cases Step.made? setup ⟨load, move, load.step setup move⟩ <;> rfl
    rw [made, told, filterMap_concat, filterMap_concat, List.map_append, List.count_append,
      List.count_append, ← made, ← told, hmap]
    dsimp only at hbalanced
    omega
  closes client := by
    have hbalanced := (balanced_step h.asks hsmooth client).closes
    have hcloses := h.closes client
    rw [closed, told, filterMap_concat, filterMap_concat, List.count_append, List.count_append,
      ← closed, ← told]
    dsimp only at hbalanced
    omega

theorem books_run (setup : EngineSetup) (moves : List Move)
    (h : ∀ s ∈ initial.steps setup moves, s.smooth = true) :
    Books setup (initial.steps setup moves) (initial.run setup moves) := by
  refine run_induction (P := fun steps load =>
    (∀ s ∈ steps, s.smooth = true) → Books setup steps load) (fun _ => books_initial) ?_ moves h
  intro steps load move ih hsmooth
  have hsteps : ∀ s ∈ steps, s.smooth = true := fun s hs => hsmooth s (List.mem_append_left _ hs)
  exact (ih hsteps).step (hsmooth _ (List.mem_append_right _ (List.mem_singleton_self _)))

/-- Nothing is being closed while no task has to do with getting or closing clients. -/
theorem Calm.closing_eq_nil (h : load.Calm) (hasks : load.Asks) : load.closing = [] := by
  have hidle : ∀ standing ∈ load.tasks, standing.closes? = none ∧ standing.backlog = [] := by
    intro standing hmem
    obtain ⟨id, hid⟩ := List.getElem?_of_mem hmem
    rcases standing with (⟨task, request⟩ | result) | _
    · have htask : load.task? id = some task := by rw [task?, hid]; rfl
      have hmidway := h id task htask
      exact ⟨EngineTask.Asks.closes?_of_midway (hasks _ hmem) hmidway,
        EngineTask.backlog_of_midway hmidway⟩
    · exact ⟨rfl, rfl⟩
    · exact ⟨rfl, rfl⟩
  have hunderway : load.underway = [] := by
    refine List.flatMap_eq_nil_iff.mpr fun standing hmem => ?_
    rw [(hidle standing hmem).1]
    rfl
  have hbacklog : load.backlog = [] :=
    List.flatMap_eq_nil_iff.mpr fun standing hmem => (hidle standing hmem).2
  rw [closing, hunderway, hbacklog]
  rfl

/-- Where all clients are that were ever made in a run. -/
structure Conserved (setup : EngineSetup) (steps : List Step) (load : Workload) : Prop where
  /-- At most one client is pooled for each tenant. -/
  keys : (load.engine.pool.map Prod.fst).Nodup
  /-- Each client that was made is another one. -/
  fresh : ((made setup steps).map Prod.snd).Nodup
  /-- A client that was made is pooled for the tenant that it was made for, or is being closed, or
  has closed. -/
  kept : ∀ entry ∈ made setup steps,
    entry ∈ load.engine.pool ∨ entry.2 ∈ load.closing ∨ entry.2 ∈ closed steps
  /-- A pooled client was made, and is neither being closed nor has it closed. -/
  apart : ∀ entry ∈ load.engine.pool,
    entry ∈ made setup steps ∧ entry.2 ∉ load.closing ∧ entry.2 ∉ closed steps
  /-- No client is told twice to close. -/
  once : (told steps).Nodup
  /-- Between all calls for clients and all disposals, the clients that have not closed are the
  pooled ones. -/
  settled : load.Calm → ∀ entry ∈ made setup steps,
    entry ∈ load.engine.pool ↔ entry.2 ∉ closed steps

theorem Books.conserved (h : Books setup steps load) : Conserved setup steps load := by
  have hfresh : ((made setup steps).map Prod.snd).Nodup := by
    have hnumbers : (((made setup steps).map Prod.snd).map Client.number).Nodup := by
      rw [List.map_map]
      exact h.numbers ▸ List.nodup_range'
    exact hnumbers.of_map _
  have hcount := List.nodup_iff_count_le_one.mp hfresh
  -- a client that was made counts one, and the books find it in one of three places
  have hkept : ∀ entry ∈ made setup steps,
      entry ∈ load.engine.pool ∨ entry.2 ∈ load.closing ∨ entry.2 ∈ closed steps := by
    intro entry hmade
    have hpos : 0 < ((made setup steps).map Prod.snd).count entry.2 :=
      List.count_pos_iff.mpr (List.mem_map_of_mem hmade)
    have hclients := h.clients entry.2
    have hcloses := h.closes entry.2
    by_cases hpooled : entry.2 ∈ load.pooled
    · obtain ⟨other, hother, heq⟩ := List.mem_map.mp hpooled
      have hentry : other = entry :=
        List.inj_on_of_nodup_map hfresh (h.listed other hother) hmade heq
      exact .inl (hentry ▸ hother)
    · rw [List.count_eq_zero_of_not_mem hpooled] at hclients
      right
      by_contra hnot
      obtain ⟨hclosing, hclosed⟩ := not_or.mp hnot
      have hzero := List.count_eq_zero_of_not_mem hclosing
      rw [closing, List.count_append] at hzero
      have hzero' := List.count_eq_zero_of_not_mem hclosed
      omega
  have hapart : ∀ entry ∈ load.engine.pool,
      entry ∈ made setup steps ∧ entry.2 ∉ load.closing ∧ entry.2 ∉ closed steps := by
    intro entry hmem
    have hpos : 0 < load.pooled.count entry.2 := List.count_pos_iff.mpr (List.mem_map_of_mem hmem)
    have hclients := h.clients entry.2
    have hcloses := h.closes entry.2
    have hone := hcount entry.2
    refine ⟨h.listed entry hmem, fun hclosing => ?_, fun hclosed => ?_⟩
    · have hpos' := List.count_pos_iff.mpr hclosing
      rw [closing, List.count_append] at hpos'
      omega
    · have hpos' := List.count_pos_iff.mpr hclosed
      omega
  refine ⟨h.keys, hfresh, hkept, hapart, ?_, ?_⟩
  · refine List.nodup_iff_count_le_one.mpr fun client => ?_
    have hclients := h.clients client
    have hone := hcount client
    omega
  · intro hcalm entry hmade
    constructor
    · exact fun hmem => (hapart entry hmem).2.2
    · intro hopen
      rcases hkept entry hmade with hmem | hclosing | hclosed
      · exact hmem
      · rw [hcalm.closing_eq_nil h.asks] at hclosing
        cases hclosing
      · exact absurd hclosed hopen

/-! ## Runs without disposal -/

/-- Whatever client a job was given or is about to go on with is the pooled one. -/
structure Loyal (setup : EngineSetup) (steps : List Step) (load : Workload) : Prop where
  surplus : ∀ progress, .reached progress ∈ load.tasks → ∀ entry ∈ progress.surplus?,
    load.engine.pool.lookup entry.1 = some entry.2
  given : ∀ s ∈ steps, ∀ entry ∈ s.given? setup, load.engine.pool.lookup entry.1 = some entry.2

theorem loyal_initial : Loyal setup [] initial where
  surplus := by
    intro progress hmem
    cases hmem
  given := by
    intro s hs
    cases hs

theorem Loyal.lookup_of_gives (h : Loyal setup steps load) {move : Move}
    {entry : String × Client} (hgives : load.gives? setup move = some entry) :
    (load.step setup move).engine.pool.lookup entry.1 = some entry.2 := by
  cases move with
  | dispose | clearCache | register _ | cancel _ => cases hgives
  | start job =>
    obtain ⟨client, hclient, rfl⟩ := Option.map_eq_some_iff.mp hgives
    obtain ⟨hpool, -⟩ := Engine.start_of_gives hclient
    have hcarries : load.engine.Carries (load.engine.start setup job) := Engine.carries_start hpool
    rw [step, enlist, hcarries.pool]
    exact hpool
  | resume id answer =>
    rw [gives?] at hgives
    cases htask : load.task? id with
    | none =>
      rw [htask] at hgives
      cases hgives
    | some task =>
      rw [htask] at hgives
      have hstep : (load.step setup (.resume id answer)).engine =
          (load.engine.resume setup task answer).engine := by
        simp only [step, htask]
        rfl
      rw [hstep]
      cases task with
      | resolving job =>
        obtain ⟨client, hclient, rfl⟩ := Option.map_eq_some_iff.mp hgives
        obtain ⟨hpool, entries, hturn⟩ := Engine.resume_resolving_of_gives hclient
        have hcarries : (load.engine.withClient job.tenantId client).Carries
            ((load.engine.withClient job.tenantId client).proceed setup.retry client job) :=
          Engine.carries_proceed client job
        rw [hturn, (hcarries.after entries).pool]
        exact hpool
      | closingSurplus job client =>
        obtain ⟨given, hclient, rfl⟩ := Option.map_eq_some_iff.mp hgives
        obtain rfl : client = given := Option.some.inj hclient
        obtain ⟨request, hstanding⟩ := exists_request htask
        have hcarries : load.engine.Carries (load.engine.proceed setup.retry client job) :=
          Engine.carries_proceed client job
        rw [Engine.resume, hcarries.pool]
        exact h.surplus _ (List.mem_of_getElem? hstanding) _ rfl
      | sending _ _ _ _ _ | awaiting _ _ _ | changing _ _ _ | acting _ _ _ _ | handling _ _ _
      | closing _ _ => cases hgives

theorem Loyal.step (h : Loyal setup steps load) {move : Move} (hmove : move ≠ .dispose) :
    Loyal setup (steps ++ [⟨load, move, load.step setup move⟩]) (load.step setup move) := by
  obtain ⟨backlog, turn, htrade, hpool, -, htasks⟩ := @trades_step setup load _ hmove
  have hkeeps : load.engine.pool <+: (load.step setup move).engine.pool := by
    rw [hpool]
    exact htrade.keeps
  refine ⟨fun progress hmem entry hentry => ?_, fun s hs entry hentry => ?_⟩
  · rcases htasks progress hmem with hmem | rfl
    · exact Engine.lookup_of_prefix hkeeps (h.surplus progress hmem entry hentry)
    · exact Engine.lookup_of_prefix hkeeps (htrade.lookup_of_surplus? hentry)
  · rcases List.mem_append.mp hs with hs | hs
    · exact Engine.lookup_of_prefix hkeeps (h.given s hs entry hentry)
    · rw [List.mem_singleton.mp hs] at hentry
      exact h.lookup_of_gives hentry

theorem loyal_run (setup : EngineSetup) (moves : List Move)
    (h : ∀ s ∈ initial.steps setup moves, s.move ≠ .dispose) :
    Loyal setup (initial.steps setup moves) (initial.run setup moves) := by
  refine run_induction (P := fun steps load =>
    (∀ s ∈ steps, s.move ≠ .dispose) → Loyal setup steps load) (fun _ => loyal_initial) ?_ moves h
  intro steps load move ih hmoves
  have hsteps : ∀ s ∈ steps, s.move ≠ .dispose := fun s hs => hmoves s (List.mem_append_left _ hs)
  exact (ih hsteps).step (hmoves _ (List.mem_append_right _ (List.mem_singleton_self _)))

/-- In every run in which closing goes well, clients are conserved, however the tasks are
interleaved and whatever they find. If nothing is disposed of, all jobs for one tenant get one and
the same client. -/
theorem conserved_run (setup : EngineSetup) (moves : List Move)
    (hsmooth : ∀ s ∈ initial.steps setup moves, s.smooth = true) :
    Conserved setup (initial.steps setup moves) (initial.run setup moves) ∧
      ((∀ s ∈ initial.steps setup moves, s.move ≠ .dispose) →
        ∀ s ∈ initial.steps setup moves, ∀ other ∈ initial.steps setup moves,
          ∀ tenantId client another, s.given? setup = some (tenantId, client) →
            other.given? setup = some (tenantId, another) → client = another) := by
  refine ⟨(books_run setup moves hsmooth).conserved, ?_⟩
  intro hmoves s hs other hother tenantId client another hgiven hanother
  have hloyal := loyal_run setup moves hmoves
  have hpooled := hloyal.given s hs _ hgiven
  have hpooled' := hloyal.given other hother _ hanother
  exact Option.some.inj (hpooled.symm.trans hpooled')

/-- A tenant with an account of the platform. -/
def bakery : Tenant := ⟨"bakery", "", ⟨"https://chat.example.com", "token", 1⟩, []⟩

/-- Two jobs that need the client of a tenant at the same time. -/
def meeting : List Move :=
  [.start (.client "bakery"), .start (.actions "bakery" (.ofNat 7) []),
    .resume 0 (.found bakery), .resume 1 (.found bakery), .resume 1 .done]

theorem conserved_run_meeting :
    let setup : EngineSetup := ⟨.standard, fun _ => none⟩
    let steps := initial.steps setup meeting
    let disposed := initial.steps setup (meeting ++ [.dispose, .resume 2 .done])
    Conserved setup disposed (initial.run setup (meeting ++ [.dispose, .resume 2 .done])) ∧
      closed disposed = [⟨2, "bakery", bakery.messaging⟩, ⟨1, "bakery", bakery.messaging⟩] ∧
      ∀ s ∈ steps, ∀ other ∈ steps, ∀ tenantId client another,
        s.given? setup = some (tenantId, client) → other.given? setup = some (tenantId, another) →
          client = another := by
  intro setup steps disposed
  refine ⟨(conserved_run setup (meeting ++ [.dispose, .resume 2 .done]) ?_).1, ?_, ?_⟩
  · decide
  · decide
  · exact (conserved_run setup meeting (by decide)).2 (by decide)

end Workload

end Automation
