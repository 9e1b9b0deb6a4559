import Automation.Proofs.Sync.Workload
import Mathlib.Data.List.Nodup

/-!
# What a turn does to clients

The engine makes a client for a tenant when a task needs one and none is pooled. The lookup of the
tenant comes in between, so several tasks may make one each: the first to finish pools its own, the
others close theirs and go on with the pooled one. Disposing empties the pool and closes what was in
it, one client after another. A task that has its client has nothing more to do with any of this,
and cannot fail any more.

## Main definitions

* `Progress.closes?`, `Progress.backlog` — the client that a task waits for to be closed, and those
  that it will close later.
* `Engine.makes?`, `Engine.refusal?` — the client that is made in a turn with the tenant it is for,
  and why a task gets none.
* `Engine.Carries`, `Engine.Trades` — what a turn does to clients, with its own one and without.

## Main statements

* `Engine.carries_proceed`, `Engine.carries_resume` — the turns of tasks that have their clients.
* `Engine.trades_start`, `Engine.closes_dispose`, `Engine.trades_resume` — what any turn does.
* `Engine.Trades.balance` — no turn loses or doubles a client.
* `Engine.start_of_gives`, `Engine.resume_resolving_of_gives` — a job goes on with the client that a
  bare request in its place would get.
* `Engine.failure?_resume`, `Engine.resume_of_refusal?` — a task fails when it gets no client, for
  no other reason, and then leaves the engine as it was.
-/

namespace Automation

namespace EngineTask

/-- Whether a task is on its way to a client, or closes those that were pooled. -/
def midway : EngineTask → Bool
  | .resolving _ | .closingSurplus .. | .closing .. => true
  | .sending .. | .awaiting .. | .changing .. | .acting .. | .handling .. => false

/-- The clients that a task is going to close later. -/
def backlog : EngineTask → List Client
  | .closing _ rest => rest
  | .resolving _ | .closingSurplus .. | .sending .. | .awaiting .. | .changing .. | .acting ..
  | .handling .. => []

theorem backlog_of_midway {task : EngineTask} (h : task.midway = false) : task.backlog = [] := by
  cases task with
  | resolving _ | closingSurplus _ _ | closing _ _ => cases h
  | sending _ _ _ _ _ | awaiting _ _ _ | changing _ _ _ | acting _ _ _ _ | handling _ _ _ => rfl

end EngineTask

namespace Progress

/-- The client that a task asks to be closed. -/
def closes? : Progress → Option Client
  | .waiting _ (.close client) => some client
  | .waiting .. | .finished _ => none

/-- The clients that a task is going to close later. -/
def backlog : Progress → List Client
  | .waiting task _ => task.backlog
  | .finished _ => []

/-- The pooled client with which a job will go on that has its own one closed, and the tenant. -/
def surplus? : Progress → Option (String × Client)
  | .waiting (.closingSurplus job client) _ => some (job.tenantId, client)
  | .waiting .. | .finished _ => none

/-- The client that a task has ended with. -/
def client? : Progress → Option Client
  | .finished (.ok (.client client)) => some client
  | .waiting .. | .finished _ => none

/-- The failure that a task has ended with. -/
def failure? : Progress → Option Failure
  | .finished (.error failure) => some failure
  | .waiting .. | .finished _ => none

/-- The job for whose tenant a task looks. -/
def resolves? : Progress → Option Job
  | .waiting (.resolving job) _ => some job
  | .waiting .. | .finished _ => none

/-- A task has its client, or has ended well: it looks for no client and closes none. -/
def Equipped : Progress → Prop
  | .waiting task _ => task.midway = false
  | .finished result => ∃ jobResult, result = .ok jobResult

end Progress

/-- A task that has its client waits for none to be closed. -/
theorem EngineTask.Asks.closes?_of_midway {task : EngineTask} {request : Request}
    (hasks : task.Asks request) (h : task.midway = false) :
    (Progress.waiting task request).closes? = none := by
  cases task with
  | resolving _ | closingSurplus _ _ | closing _ _ => cases h
  | sending sync key value flight retrying =>
    cases retrying with
    | trying backoff =>
      obtain rfl := hasks
      rfl
    | pausing backoff =>
      obtain ⟨seconds, rfl⟩ := hasks
      rfl
  | awaiting sync key flight =>
    obtain rfl := hasks
    rfl
  | changing sync change retrying =>
    cases retrying with
    | trying backoff =>
      obtain rfl := hasks
      rfl
    | pausing backoff =>
      obtain ⟨seconds, rfl⟩ := hasks
      rfl
  | acting acting action outbound retrying =>
    cases retrying with
    | trying backoff =>
      obtain rfl := hasks
      cases outbound <;> rfl
    | pausing backoff =>
      obtain ⟨seconds, rfl⟩ := hasks
      rfl
  | handling acting action kind =>
    obtain rfl := hasks
    rfl

namespace Progress.Equipped

variable {progress : Progress}

theorem closes? (h : progress.Equipped) (hasks : progress.Asks) : progress.closes? = none := by
  cases progress with
  | waiting task request => exact EngineTask.Asks.closes?_of_midway hasks h
  | finished result => rfl

theorem backlog (h : progress.Equipped) : progress.backlog = [] := by
  cases progress with
  | waiting task request => exact EngineTask.backlog_of_midway h
  | finished result => rfl

theorem surplus? (h : progress.Equipped) : progress.surplus? = none := by
  cases progress with
  | waiting task request =>
    cases task with
    | resolving _ | closingSurplus _ _ | closing _ _ => cases h
    | sending _ _ _ _ _ | awaiting _ _ _ | changing _ _ _ | acting _ _ _ _ | handling _ _ _ => rfl
  | finished result => rfl

theorem resolves? (h : progress.Equipped) : progress.resolves? = none := by
  cases progress with
  | waiting task request =>
    cases task with
    | resolving _ | closingSurplus _ _ | closing _ _ => cases h
    | sending _ _ _ _ _ | awaiting _ _ _ | changing _ _ _ | acting _ _ _ _ | handling _ _ _ => rfl
  | finished result => rfl

theorem failure? (h : progress.Equipped) : progress.failure? = none := by
  cases progress with
  | waiting task request => rfl
  | finished result =>
    obtain ⟨jobResult, rfl⟩ := h
    rfl

end Progress.Equipped

/-! ## Turns -/

namespace Engine

/-- The next client that is made, if it is for a tenant. -/
def newClient (engine : Engine) (tenant : Tenant) : Client :=
  ⟨engine.created + 1, tenant.id, tenant.messaging⟩

/-- The client that is made when a task goes on, with the tenant that it is for. -/
def makes? (setup : EngineSetup) (engine : Engine) : EngineTask → Answer → Option (String × Client)
  | .resolving job, .found tenant =>
    match setup.obstacle tenant with
    | none => some (job.tenantId, engine.newClient tenant)
    | some _ => none
  | _, _ => none

/-- A turn of a task that has its client: no client is made or pooled, and the task does not fail
nor needs another client. -/
structure Carries (engine : Engine) (turn : Turn) : Prop where
  pool : turn.engine.pool = engine.pool
  created : turn.engine.created = engine.created
  equipped : turn.progress.Equipped

/-- What the turn of a task that was to close some clients does to all of them: it leaves them
alone, or has the next one closed; or it pools a new client; or it makes one that is not needed,
and has it closed. -/
inductive Trades (engine : Engine) (backlog : List Client) (turn : Turn) :
    Option (String × Client) → Prop
  | rests (pool : turn.engine.pool = engine.pool) (created : turn.engine.created = engine.created)
      (closes : turn.progress.closes?.toList ++ turn.progress.backlog = backlog)
      (surplus : turn.progress.surplus? = none) :
      Trades engine backlog turn none
  | pools (tenantId : String) (client : Client) (number : client.number = engine.created + 1)
      (absent : engine.pool.lookup tenantId = none)
      (pool : turn.engine.pool = engine.pool ++ [(tenantId, client)])
      (created : turn.engine.created = engine.created + 1)
      (closes : turn.progress.closes?.toList ++ turn.progress.backlog = backlog)
      (surplus : turn.progress.surplus? = none) :
      Trades engine backlog turn (some (tenantId, client))
  | spares (tenantId : String) (client pooled : Client)
      (number : client.number = engine.created + 1)
      (listed : engine.pool.lookup tenantId = some pooled)
      (pool : turn.engine.pool = engine.pool) (created : turn.engine.created = engine.created + 1)
      (closes : turn.progress.closes?.toList ++ turn.progress.backlog = client :: backlog)
      (surplus : turn.progress.surplus? = some (tenantId, pooled)) :
      Trades engine backlog turn (some (tenantId, client))

variable {options : RetryOptions} {setup : EngineSetup} {engine other : Engine}

namespace Carries

theorem after {turn : Turn} (h : engine.Carries turn) (entries : List LogEntry) :
    engine.Carries (turn.after entries) := ⟨h.pool, h.created, h.equipped⟩

/-- What leaves the clients alone may come in front of a turn. -/
theorem of_eq {turn : Turn} (h : other.Carries turn) (hpool : other.pool = engine.pool)
    (hcreated : other.created = engine.created) : engine.Carries turn :=
  ⟨h.pool.trans hpool, h.created.trans hcreated, h.equipped⟩

/-- So may the landing of a message, which is noted in the tables of messages only. -/
theorem of_land {turn : Turn} {messageKey : String} {flight : Nat} {landing : Landing}
    (h : (engine.land messageKey flight landing).Carries turn) : engine.Carries turn := by
  refine h.of_eq ?_ ?_
  · rfl
  · rfl

theorem of_finish (result : JobResult) : engine.Carries (engine.finish (.ok result)) :=
  ⟨rfl, rfl, result, rfl⟩

theorem trades {turn : Turn} (h : engine.Carries turn) (hasks : turn.progress.Asks) :
    engine.Trades [] turn none := by
  refine .rests h.pool h.created ?_ h.equipped.surplus?
  rw [h.equipped.closes? hasks, h.equipped.backlog]
  rfl

end Carries

theorem carries_proceedChanges (sync : Syncing) (changes : List Change) :
    engine.Carries (engine.proceedChanges options sync changes) := by
  induction changes generalizing sync with
  | nil => exact (Carries.of_finish _).after _
  | cons change rest ih =>
    rw [proceedChanges]
    split
    · exact ⟨rfl, rfl, rfl⟩
    · exact (ih _).after _

theorem carries_proceedMessages (sync : Syncing) (messages : List (String × Json)) :
    engine.Carries (engine.proceedMessages options sync messages) := by
  induction messages generalizing engine sync with
  | nil => exact carries_proceedChanges sync sync.changes
  | cons message rest ih =>
    obtain ⟨key, value⟩ := message
    rw [proceedMessages]
    split
    · exact ⟨rfl, rfl, rfl⟩
    · split
      · exact (ih sync).after _
      · cases hfirst : Backoff.first options with
        | ok backoff => exact ⟨rfl, rfl, rfl⟩
        | error fault =>
          -- a send that never takes off changes the tables of messages only
          dsimp only [reserve, concludeSend]
          refine Carries.after (Carries.of_eq (ih _) ?_ ?_) _
          · rfl
          · rfl

theorem carries_proceedActions (acting : Acting) (actions : List Action) :
    engine.Carries (engine.proceedActions options acting actions) := by
  induction actions with
  | nil => exact .of_finish _
  | cons action rest ih =>
    rw [proceedActions]
    split
    · exact ih.after _
    · refine Carries.after ?_ _
      split
      · exact ⟨rfl, rfl, rfl⟩
      · split
        · exact ih.after _
        · exact ih.after _
        · split
          · exact ⟨rfl, rfl, rfl⟩
          · exact ih.after _

theorem carries_proceed (client : Client) (job : Job) :
    engine.Carries (engine.proceed options client job) := by
  cases job with
  | sync tenantId conversation plan => exact carries_proceedMessages _ _
  | actions tenantId conversation actions => exact carries_proceedActions _ _
  | client tenantId => exact .of_finish _

theorem carries_continueCall {task : Retrying → EngineTask} {request : Request} {step : CallStep}
    {onEnd : Option Failure → Turn} (htask : ∀ retrying, (task retrying).midway = false)
    (hend : ∀ failure?, engine.Carries (onEnd failure?)) :
    engine.Carries (engine.continueCall task request step onEnd) := by
  cases step with
  | attempt backoff => exact ⟨rfl, rfl, htask _⟩
  | pause seconds backoff => exact ⟨rfl, rfl, htask _⟩
  | ended failure? => exact hend failure?

/-- The turn of a task that has its client already. -/
theorem carries_resume {task : EngineTask} (h : task.midway = false) (answer : Answer) :
    engine.Carries (engine.resume setup task answer) := by
  cases task with
  | resolving job => cases h
  | closingSurplus job client => cases h
  | closing current rest => cases h
  | sending sync key value flight retrying =>
    refine (carries_continueCall (fun _ => rfl) fun failure? => ?_).after _
    cases failure? with
    | none => exact (carries_proceedMessages _ _).of_land.after _
    | some failure => exact (carries_proceedMessages _ _).of_land.after _
  | awaiting sync key flight =>
    rw [resume]
    split
    · exact ⟨rfl, rfl, rfl⟩
    · exact carries_proceedMessages _ _
    · exact carries_proceedMessages _ _
  | changing sync change retrying =>
    exact (carries_continueCall (fun _ => rfl) fun failure? =>
      (carries_proceedChanges _ _).after _).after _
  | acting acting action outbound retrying =>
    exact (carries_continueCall (fun _ => rfl) fun failure? =>
      (carries_proceedActions _ _).after _).after _
  | handling acting action kind => exact (carries_proceedActions _ _).after _

theorem start_of_pooled {job : Job} {client : Client}
    (hpool : engine.pool.lookup job.tenantId = some client) :
    ∃ entries, engine.start setup job =
      (engine.proceed setup.retry client job).after entries := by
  cases job with
  | sync tenantId conversation plan =>
    exact ⟨[Syncing.startEntry tenantId conversation plan], by simp only [start, hpool]⟩
  | actions tenantId conversation actions => exact ⟨[], by simp only [start, hpool]; rfl⟩
  | client tenantId => exact ⟨[], by simp only [start, hpool]; rfl⟩

theorem start_of_absent {job : Job} (hpool : engine.pool.lookup job.tenantId = none) :
    ∃ entries, engine.start setup job =
      (engine.wait (.resolving job) (.lookup job.tenantId)).after entries := by
  cases job with
  | sync tenantId conversation plan =>
    exact ⟨[Syncing.startEntry tenantId conversation plan], by simp only [start, hpool]⟩
  | actions tenantId conversation actions => exact ⟨[], by simp only [start, hpool]; rfl⟩
  | client tenantId => exact ⟨[], by simp only [start, hpool]; rfl⟩

theorem carries_start {job : Job} {client : Client}
    (hpool : engine.pool.lookup job.tenantId = some client) :
    engine.Carries (engine.start setup job) := by
  obtain ⟨entries, hturn⟩ := @start_of_pooled setup _ _ _ hpool
  rw [hturn]
  exact (carries_proceed client job).after entries

theorem trades_start (job : Job) : engine.Trades [] (engine.start setup job) none := by
  cases hpool : engine.pool.lookup job.tenantId with
  | some client => exact (carries_start hpool).trades (asks_start job)
  | none =>
    obtain ⟨entries, hturn⟩ := @start_of_absent setup _ _ hpool
    rw [hturn]
    exact .rests rfl rfl rfl rfl

theorem engage_of_obstacle {job : Job} {tenant : Tenant} {failure : Failure}
    (h : setup.obstacle tenant = some failure) :
    engine.engage setup job tenant = engine.finish (.error failure) := by
  rw [engage, h]

theorem engage_of_pooled {job : Job} {tenant : Tenant} {pooled : Client}
    (h : setup.obstacle tenant = none) (hpool : engine.pool.lookup job.tenantId = some pooled) :
    engine.engage setup job tenant =
      wait { engine with created := engine.created + 1 } (.closingSurplus job pooled)
        (.close (engine.newClient tenant)) := by
  rw [engage, h, hpool]
  rfl

/-- The engine with a new client for a tenant in its pool. -/
def withClient (engine : Engine) (tenantId : String) (client : Client) : Engine :=
  { engine with created := engine.created + 1, pool := engine.pool ++ [(tenantId, client)] }

theorem engage_of_absent {job : Job} {tenant : Tenant} (h : setup.obstacle tenant = none)
    (hpool : engine.pool.lookup job.tenantId = none) :
    ∃ entries, engine.engage setup job tenant =
      ((engine.withClient job.tenantId (engine.newClient tenant)).proceed setup.retry
        (engine.newClient tenant) job).after entries := by
  rw [engage, h, hpool]
  exact ⟨_, rfl⟩

theorem carries_engage {job : Job} {tenant : Tenant} (h : setup.obstacle tenant = none)
    (hpool : engine.pool.lookup job.tenantId = none) :
    (engine.withClient job.tenantId (engine.newClient tenant)).Carries
      (engine.engage setup job tenant) := by
  obtain ⟨entries, hturn⟩ := engage_of_absent h hpool
  rw [hturn]
  exact (carries_proceed _ job).after entries

theorem trades_engage (job : Job) (tenant : Tenant) :
    engine.Trades [] (engine.engage setup job tenant)
      (engine.makes? setup (.resolving job) (.found tenant)) := by
  cases hobstacle : setup.obstacle tenant with
  | some failure =>
    rw [engage_of_obstacle hobstacle, makes?, hobstacle]
    exact .rests rfl rfl rfl rfl
  | none =>
    rw [makes?, hobstacle]
    cases hpool : engine.pool.lookup job.tenantId with
    | some pooled =>
      rw [engage_of_pooled hobstacle hpool]
      exact .spares _ _ pooled rfl hpool rfl rfl rfl rfl
    | none =>
      have hcarries := carries_engage hobstacle hpool
      refine .pools _ _ rfl hpool hcarries.pool hcarries.created ?_ hcarries.equipped.surplus?
      rw [hcarries.equipped.closes? (asks_engage job tenant), hcarries.equipped.backlog]
      rfl

theorem closes_closeAll (clients : List Client) :
    (engine.closeAll clients).progress.closes?.toList ++
      (engine.closeAll clients).progress.backlog = clients := by
  cases clients with
  | nil => rfl
  | cons client rest => rfl

/-- Disposing empties the pool, and closes what was in it. -/
theorem closes_dispose : engine.dispose.progress.closes?.toList ++ engine.dispose.progress.backlog =
    engine.pool.map Prod.snd := closes_closeAll _

theorem engine_dispose : engine.dispose.engine = { engine with pool := [] } := by
  rw [dispose]
  cases engine.pool with
  | nil => rfl
  | cons entry rest => rfl

/-- The turn of a task that goes on. -/
theorem trades_resume (task : EngineTask) (answer : Answer) :
    engine.Trades task.backlog (engine.resume setup task answer)
      (engine.makes? setup task answer) := by
  cases task with
  | resolving job =>
    cases answer with
    | found tenant => exact trades_engage job tenant
    | done => exact .rests rfl rfl rfl rfl
    | failed failure => exact .rests rfl rfl rfl rfl
  | closingSurplus job client => exact (carries_proceed client job).trades (asks_proceed client job)
  | closing current rest =>
    refine .rests ?_ ?_ (closes_closeAll rest) ?_
    · cases rest <;> rfl
    · cases rest <;> rfl
    · cases rest <;> rfl
  | sending _ _ _ _ _ | awaiting _ _ _ | changing _ _ _ | acting _ _ _ _ | handling _ _ _ =>
    exact (carries_resume rfl answer).trades (asks_resume _ answer)

/-- A turn takes no client from the pool. -/
theorem Trades.keeps {backlog : List Client} {turn : Turn} {made? : Option (String × Client)}
    (h : engine.Trades backlog turn made?) : engine.pool <+: turn.engine.pool := by
  cases h with
  | rests pool created closes surplus => exact pool ▸ List.prefix_rfl
  | pools tenantId client number absent pool created closes surplus =>
    exact pool ▸ List.prefix_append _ _
  | spares tenantId client pooled number listed pool created closes surplus =>
    exact pool ▸ List.prefix_rfl

/-- No turn loses or doubles a client. -/
theorem Trades.balance {backlog : List Client} {turn : Turn} {made? : Option (String × Client)}
    (h : engine.Trades backlog turn made?) (client : Client) :
    (turn.engine.pool.map Prod.snd).count client + turn.progress.backlog.count client +
        turn.progress.closes?.toList.count client =
      (engine.pool.map Prod.snd).count client + backlog.count client +
        (made?.map Prod.snd).toList.count client := by
  cases h with
  | rests pool created closes surplus =>
    rw [pool, ← closes, List.count_append]
    simp only [Option.map_none, Option.toList_none, List.count_nil]
    omega
  | pools tenantId own number absent pool created closes surplus =>
    rw [pool, ← closes, List.count_append, List.map_append, List.count_append]
    simp only [Option.map_some, Option.toList_some, List.map_cons, List.map_nil]
    omega
  | spares tenantId own pooled number listed pool created closes surplus =>
    have hcount := congrArg (List.count client) closes
    rw [List.count_append, List.count_cons] at hcount
    rw [pool]
    simp only [Option.map_some, Option.toList_some, List.count_singleton]
    omega

/-- With at most one client for each tenant, a turn pools at most one for each. -/
theorem Trades.nodup {backlog : List Client} {turn : Turn} {made? : Option (String × Client)}
    (h : engine.Trades backlog turn made?) (hkeys : (engine.pool.map Prod.fst).Nodup) :
    (turn.engine.pool.map Prod.fst).Nodup := by
  cases h with
  | rests pool created closes surplus => rwa [pool]
  | pools tenantId own number absent pool created closes surplus =>
    have hfresh : tenantId ∉ engine.pool.map Prod.fst := by
      intro hmem
      obtain ⟨entry, hentry, rfl⟩ := List.mem_map.mp hmem
      exact absurd rfl (bne_iff_ne.mp (List.lookup_eq_none_iff.mp absent entry hentry))
    rw [pool, List.map_append, List.map_singleton, ← List.concat_eq_append]
    exact hkeys.concat hfresh
  | spares tenantId own pooled number listed pool created closes surplus => rwa [pool]

/-- A task that has its client makes none. -/
theorem makes?_of_midway {task : EngineTask} (h : task.midway = false) (answer : Answer) :
    engine.makes? setup task answer = none := by
  cases task with
  | resolving _ | closingSurplus _ _ | closing _ _ => cases h
  | sending _ _ _ _ _ | awaiting _ _ _ | changing _ _ _ | acting _ _ _ _ | handling _ _ _ => rfl

/-- Whatever is pooled after a turn was so before, or is what the turn has made. -/
theorem Trades.mem_pool {backlog : List Client} {turn : Turn} {made? : Option (String × Client)}
    (h : engine.Trades backlog turn made?) {entry : String × Client}
    (hmem : entry ∈ turn.engine.pool) : entry ∈ engine.pool ∨ made? = some entry := by
  cases h with
  | rests pool created closes surplus => exact .inl (pool ▸ hmem)
  | pools tenantId own number absent pool created closes surplus =>
    rcases List.mem_append.mp (pool ▸ hmem) with hmem | hmem
    · exact .inl hmem
    · exact .inr (congrArg some (List.mem_singleton.mp hmem).symm)
  | spares tenantId own pooled number listed pool created closes surplus => exact .inl (pool ▸ hmem)

theorem Trades.lookup_of_surplus? {backlog : List Client} {turn : Turn}
    {made? : Option (String × Client)} (h : engine.Trades backlog turn made?)
    {entry : String × Client} (hentry : turn.progress.surplus? = some entry) :
    engine.pool.lookup entry.1 = some entry.2 := by
  cases h with
  | rests pool created closes surplus =>
    rw [surplus] at hentry
    cases hentry
  | pools tenantId own number absent pool created closes surplus =>
    rw [surplus] at hentry
    cases hentry
  | spares tenantId own pooled number listed pool created closes surplus =>
    rw [surplus] at hentry
    cases hentry
    exact listed

/-- Clients are numbered as they are made. -/
theorem Trades.created {backlog : List Client} {turn : Turn} {made? : Option (String × Client)}
    (h : engine.Trades backlog turn made?) :
    turn.engine.created = engine.created + made?.toList.length ∧
      ∀ entry ∈ made?, entry.2.number = engine.created + 1 := by
  cases h with
  | rests pool created closes surplus => exact ⟨created, by simp⟩
  | pools tenantId own number absent pool created closes surplus =>
    exact ⟨created, by simpa using number⟩
  | spares tenantId own pooled number listed pool created closes surplus =>
    exact ⟨created, by simpa using number⟩

theorem lookup_of_prefix {pool other : List (String × Client)} (h : pool <+: other)
    {tenantId : String} {client : Client} (hpool : pool.lookup tenantId = some client) :
    other.lookup tenantId = some client := by
  obtain ⟨rest, rfl⟩ := h
  rw [List.lookup_append, hpool]
  rfl

theorem start_client (tenantId : String) :
    engine.start setup (.client tenantId) =
      match engine.pool.lookup tenantId with
      | some client => engine.finish (.ok (.client client))
      | none => engine.wait (.resolving (.client tenantId)) (.lookup tenantId) := rfl

/-- A job goes on with the client that is pooled. -/
theorem start_of_gives {job : Job} {client : Client}
    (h : (engine.start setup (.client job.tenantId)).progress.client? = some client) :
    engine.pool.lookup job.tenantId = some client ∧
      ∃ entries, engine.start setup job =
        (engine.proceed setup.retry client job).after entries := by
  cases hpool : engine.pool.lookup job.tenantId with
  | none =>
    rw [start_client, hpool] at h
    cases h
  | some pooled =>
    rw [start_client, hpool] at h
    obtain rfl : pooled = client := Option.some.inj h
    exact ⟨rfl, start_of_pooled hpool⟩

/-- A job that gets a client from the lookup of its tenant goes on with it, and it is pooled. -/
theorem resume_resolving_of_gives {job : Job} {answer : Answer} {client : Client}
    (h : (engine.resume setup (.resolving (.client job.tenantId)) answer).progress.client? =
      some client) :
    (engine.withClient job.tenantId client).pool.lookup job.tenantId = some client ∧
      ∃ entries, engine.resume setup (.resolving job) answer =
        ((engine.withClient job.tenantId client).proceed setup.retry client job).after entries := by
  cases answer with
  | done => cases h
  | failed failure => cases h
  | found tenant =>
    rw [resume] at h ⊢
    cases hobstacle : setup.obstacle tenant with
    | some failure =>
      rw [engage_of_obstacle hobstacle] at h
      cases h
    | none =>
      cases hpool : engine.pool.lookup job.tenantId with
      | some pooled =>
        have hbare : engine.pool.lookup (Job.client job.tenantId).tenantId = some pooled := hpool
        rw [engage_of_pooled hobstacle hbare] at h
        cases h
      | none =>
        have hbare : engine.pool.lookup (Job.client job.tenantId).tenantId = none := hpool
        obtain ⟨entries, hturn⟩ := engage_of_absent hobstacle hbare
        rw [hturn] at h
        obtain rfl : engine.newClient tenant = client := Option.some.inj h
        refine ⟨?_, engage_of_absent hobstacle hpool⟩
        rw [withClient, List.lookup_append, hpool]
        simp

/-! ## Failures -/

theorem failure?_start (job : Job) : (engine.start setup job).progress.failure? = none := by
  cases hpool : engine.pool.lookup job.tenantId with
  | some client => exact (carries_start hpool).equipped.failure?
  | none =>
    obtain ⟨entries, hturn⟩ := @start_of_absent setup _ _ hpool
    rw [hturn]
    rfl

/-- Why a task gets no client, if it does not: the lookup of its tenant has failed, or no client can
be made for the tenant. -/
def refusal? (setup : EngineSetup) : EngineTask → Answer → Option Failure
  | .resolving _, .failed failure => some failure
  | .resolving _, .found tenant => setup.obstacle tenant
  | _, _ => none

theorem failure?_engage (job : Job) (tenant : Tenant) :
    (engine.engage setup job tenant).progress.failure? = setup.obstacle tenant := by
  cases hobstacle : setup.obstacle tenant with
  | some failure =>
    rw [engage_of_obstacle hobstacle]
    rfl
  | none =>
    cases hpool : engine.pool.lookup job.tenantId with
    | some pooled =>
      rw [engage_of_pooled hobstacle hpool]
      rfl
    | none => exact (carries_engage hobstacle hpool).equipped.failure?

/-- A task fails when it gets no client, and for no other reason. -/
theorem failure?_resume (task : EngineTask) (answer : Answer) :
    (engine.resume setup task answer).progress.failure? = refusal? setup task answer := by
  cases task with
  | resolving job =>
    cases answer with
    | failed failure => rfl
    | done => rfl
    | found tenant => exact failure?_engage job tenant
  | closingSurplus job client =>
    have hcarries : engine.Carries (engine.proceed setup.retry client job) :=
      carries_proceed client job
    exact hcarries.equipped.failure?
  | closing current rest => cases rest <;> rfl
  | sending _ _ _ _ _ | awaiting _ _ _ | changing _ _ _ | acting _ _ _ _ | handling _ _ _ =>
    exact (carries_resume rfl answer).equipped.failure?

/-- A task that gets no client leaves the engine as it was. -/
theorem resume_of_refusal? {task : EngineTask} {answer : Answer} {failure : Failure}
    (h : refusal? setup task answer = some failure) :
    engine.resume setup task answer = engine.finish (.error failure) := by
  cases task with
  | resolving job =>
    cases answer with
    | failed reason =>
      obtain rfl : reason = failure := Option.some.inj h
      rfl
    | done => cases h
    | found tenant => exact engage_of_obstacle h
  | closingSurplus _ _ | closing _ _ | sending _ _ _ _ _ | awaiting _ _ _ | changing _ _ _
  | acting _ _ _ _ | handling _ _ _ => cases h

/-! ## Lookups -/

theorem resolves?_start {job other : Job}
    (h : (engine.start setup job).progress.resolves? = some other) : other = job := by
  cases hpool : engine.pool.lookup job.tenantId with
  | some client =>
    rw [(carries_start hpool).equipped.resolves?] at h
    cases h
  | none =>
    obtain ⟨entries, hturn⟩ := @start_of_absent setup _ _ hpool
    rw [hturn] at h
    exact (Option.some.inj h).symm

/-- A task looks for no other tenant than before. -/
theorem resolves?_resume {task : EngineTask} {answer : Answer} {job : Job}
    (h : (engine.resume setup task answer).progress.resolves? = some job) :
    task = .resolving job := by
  cases task with
  | resolving other =>
    cases answer with
    | failed failure => cases h
    | done =>
      obtain rfl : other = job := Option.some.inj h
      rfl
    | found tenant =>
      rw [resume] at h
      cases hobstacle : setup.obstacle tenant with
      | some failure =>
        rw [engage_of_obstacle hobstacle] at h
        cases h
      | none =>
        cases hpool : engine.pool.lookup other.tenantId with
        | some pooled =>
          rw [engage_of_pooled hobstacle hpool] at h
          cases h
        | none =>
          rw [(carries_engage hobstacle hpool).equipped.resolves?] at h
          cases h
  | closingSurplus other client =>
    have hcarries : engine.Carries (engine.proceed setup.retry client other) :=
      carries_proceed client other
    rw [resume, hcarries.equipped.resolves?] at h
    cases h
  | closing current rest => cases rest <;> cases h
  | sending _ _ _ _ _ | awaiting _ _ _ | changing _ _ _ | acting _ _ _ _ | handling _ _ _ =>
    rw [(carries_resume rfl answer).equipped.resolves?] at h
    cases h

end Engine

end Automation
