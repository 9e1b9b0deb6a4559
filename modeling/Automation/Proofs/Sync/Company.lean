import Automation.Proofs.Sync.Likeness
import Mathlib.Data.List.Count
import Mathlib.Logic.Function.Iterate

/-!
# Errands that do not interfere

Any number of syncs and lists of actions are under way at once, and their turns come in any order.
They share one engine, with its clients and its record of messages. When no two of them have a
message in common, none is the wiser: each makes the calls that it makes alone, in the same order,
and has the same result, and what they leave behind does not depend on the order of their turns.

## Main definitions

* `Errand`, `Desk` — a job with the ends of its calls, and where it stands.
* `Company`, `Company.run`, `Company.alone` — errands that share an engine, their turns in any
  order, and the turns of one of them alone.
* `Company.Independent` — what it means that errands do not interfere.

## Main statements

* `Company.independent_run` — errands without a message in common do not interfere.
-/

namespace Automation

/-- A job for which calls are made to the outside, and the failure of each of its calls, if it
fails, by its number from one on. -/
structure Errand where
  job : Job
  outcome : Nat → Option Failure
  works : ∀ tenantId, job ≠ .client tenantId

/-- The call that is under way for a task. -/
def Progress.calling : Progress → List Request
  | .waiting _ request => if request.isCall then [request] else []
  | .finished _ => []

/-- But for numbers, a task that is finished is finished with the same result. -/
theorem Progress.eq_finished_iff {progress progress' : Progress}
    (h : progress.plain = progress'.plain) {result : Except Failure JobResult} :
    progress = .finished result ↔ progress' = .finished result := by
  cases progress with
  | waiting task request =>
    cases progress' with
    | waiting task' request' =>
      exact ⟨fun hends => Progress.noConfusion hends, fun hends => Progress.noConfusion hends⟩
    | finished result' => cases h
  | finished result' =>
    cases progress' with
    | waiting task' request' => cases h
    | finished result'' =>
      cases h
      exact Iff.rfl

theorem Progress.calling_plain (progress : Progress) :
    progress.plain.calling = progress.calling.map Request.plain := by
  cases progress with
  | finished result => rfl
  | waiting task request =>
    simp only [plain, calling, request.isCall_plain]
    split <;> rfl

/-- Where an errand stands, once it has begun, and its calls that have ended. -/
structure Desk where
  progress? : Option Progress
  calls : List Request

namespace Desk

/-- An errand that has not begun. -/
def idle : Desk := ⟨none, []⟩

/-- The calls that an errand has made, with the one that is under way. -/
def made (desk : Desk) : List Request :=
  desk.calls ++ (desk.progress?.map Progress.calling).getD []

/-- An errand after a turn, with the calls that have ended by then. -/
def after (turn : Turn) (calls : List Request) : Engine × Desk :=
  (turn.engine, ⟨some turn.progress, calls⟩)

/-- The next turn of an errand: its first one, or the one after the wait that it is in. -/
def turn (world : World) (job : Job) (engine : Engine) (desk : Desk) : Engine × Desk :=
  match desk.progress? with
  | none => after (engine.start world.setup job) []
  | some (.waiting task request) =>
    after (engine.resume world.setup task (world.answer desk.calls.length request)) desk.made
  | some (.finished _) => (engine, desk)

end Desk

/-- Errands that share an engine, by how it is set up and the configuration of every tenant. -/
structure Company (ι : Type) where
  setup : EngineSetup
  tenants : String → Tenant
  errands : ι → Errand

/-- An engine with errands under way. -/
structure Office (ι : Type) where
  engine : Engine
  desks : ι → Desk

/-- All errands are finished. -/
def Office.Done {ι : Type} (office : Office ι) : Prop :=
  ∀ i, ∃ result, (office.desks i).progress? = some (.finished result)

namespace Company

variable {ι : Type} (company : Company ι) (start : Engine) (i : ι)

/-- The job of an errand. -/
def job : Job := (company.errands i).job

/-- The keys of the messages of an errand. -/
def keys : List String := (company.job i).messageKeys

/-- What an errand meets outside. -/
def world : World :=
  ⟨company.setup, company.tenants (company.job i).tenantId, (company.errands i).outcome⟩

/-- The client that is pooled for a tenant or made for it, without its number. -/
def client (tenantId : String) : Client :=
  ((start.pool.lookup tenantId).getD
    ⟨0, (company.tenants tenantId).id, (company.tenants tenantId).messaging⟩).plain

/-- An errand alone after as many turns as given. -/
def alone (n : Nat) : Engine × Desk :=
  (fun state => state.2.turn (company.world i) (company.job i) state.1)^[n] (start, .idle)

variable [DecidableEq ι]

/-- The next turn of one of the errands. -/
def step (office : Office ι) (i : ι) : Office ι :=
  let state := (office.desks i).turn (company.world i) (company.job i) office.engine
  ⟨state.1, Function.update office.desks i state.2⟩

/-- The errands after turns in the order given. -/
def run (schedule : List ι) : Office ι :=
  schedule.foldl company.step ⟨start, fun _ => .idle⟩

/-- What it means that errands which begin in an engine do not interfere. -/
structure Independent : Prop where
  /-- At any time an errand stands where it stands alone after as many turns, one more or one less:
  it has made the same calls, its messages are on record alike, and it is finished, with the same
  result, exactly when it is so alone. -/
  same_course : ∀ schedule i, ∃ n, n ≤ schedule.count i + 1 ∧ schedule.count i ≤ n + 1 ∧
    (((company.run start schedule).desks i).made).map Request.plain =
      ((company.alone start i n).2.made).map Request.plain ∧
    (∀ key ∈ company.keys i, key ∈ (company.run start schedule).engine.processed ↔
      key ∈ (company.alone start i n).1.processed) ∧
    ∀ result, ((company.run start schedule).desks i).progress? = some (.finished result) ↔
      (company.alone start i n).2.progress? = some (.finished result)
  /-- Whatever the order of their turns, finished errands leave the same record of messages behind,
  with none in flight, and clients of the same accounts. -/
  same_cache : ∀ schedule schedule', (company.run start schedule).Done →
    (company.run start schedule').Done →
    (∀ key, key ∈ (company.run start schedule).engine.processed ↔
      key ∈ (company.run start schedule').engine.processed) ∧
    (company.run start schedule).engine.inFlight = [] ∧
    ∀ tenantId, ((company.run start schedule).engine.pool.lookup tenantId).map Client.plain =
      ((company.run start schedule').engine.pool.lookup tenantId).map Client.plain

variable {company : Company ι} {start : Engine} {i : ι} {engine other : Engine} {turns : Nat}
  {desk : Desk}

/-! ## An errand alone -/

omit [DecidableEq ι] in
theorem alone_succ (n : Nat) : company.alone start i (n + 1) =
    (company.alone start i n).2.turn (company.world i) (company.job i)
      (company.alone start i n).1 :=
  Function.iterate_succ_apply' _ _ _

omit [DecidableEq ι] in
/-- The turns of a finished errand change nothing. -/
theorem alone_eq_of_finished {m n : Nat} {result result' : Except Failure JobResult}
    (h : (company.alone start i m).2.progress? = some (.finished result))
    (h' : (company.alone start i n).2.progress? = some (.finished result')) :
    company.alone start i m = company.alone start i n := by
  have hrests : ∀ k {result : Except Failure JobResult},
      (company.alone start i k).2.progress? = some (.finished result) → ∀ more,
        company.alone start i (k + more) = company.alone start i k := by
    intro k result hk more
    induction more with
    | zero => rfl
    | succ more ih => rw [← Nat.add_assoc, alone_succ, ih, Desk.turn, hk]
  rcases Nat.le_total m n with hle | hle
  · obtain ⟨more, rfl⟩ := Nat.exists_eq_add_of_le hle
    exact (hrests m h more).symm
  · obtain ⟨more, rfl⟩ := Nat.exists_eq_add_of_le hle
    exact hrests n h' more

/-- The turns after which an errand alone has its client. -/
def lead (company : Company ι) (start : Engine) (i : ι) : Nat :=
  if (start.pool.lookup (company.job i).tenantId).isSome then 1 else 2

omit [DecidableEq ι] in
theorem alone_one_of_absent (h : start.pool.lookup (company.job i).tenantId = none) :
    company.alone start i 1 = (start, ⟨some (.waiting (.resolving (company.job i))
      (.lookup (company.job i).tenantId)), []⟩) := by
  obtain ⟨entries, hturn⟩ := @Engine.start_of_absent company.setup _ _ h
  rw [alone_succ]
  change Desk.after (start.start company.setup (company.job i)) [] = _
  rw [hturn]
  rfl

omit [DecidableEq ι] in
/-- An errand alone gets its client, and goes on with its messages as they are at the start. -/
theorem exists_alone_lead
    (hresolves : (company.world i).Resolves start (company.job i).tenantId) :
    ∃ (base : Engine) (client : Client), base.processed = start.processed ∧
      base.inFlight = start.inFlight ∧ base.handlers = start.handlers ∧
      client.plain = company.client start (company.job i).tenantId ∧
      company.alone start i (company.lead start i) =
        Desk.after (base.proceed company.setup.retry client (company.job i)) [] := by
  cases hpool : start.pool.lookup (company.job i).tenantId with
  | some client =>
    obtain ⟨entries, hturn⟩ := @Engine.start_of_pooled company.setup _ _ _ hpool
    refine ⟨start, client, rfl, rfl, rfl, by simp [Company.client, hpool], ?_⟩
    rw [lead, hpool, Option.isSome_some, if_pos rfl, alone_succ]
    change Desk.after (start.start company.setup (company.job i)) [] = _
    rw [hturn]
    rfl
  | none =>
    let tenant := company.tenants (company.job i).tenantId
    have hobstacle : company.setup.obstacle tenant = none :=
      hresolves.resolve_left (by simp [hpool])
    obtain ⟨entries, hturn⟩ := Engine.engage_of_absent hobstacle hpool
    refine ⟨start.withClient (company.job i).tenantId (start.newClient tenant),
      start.newClient tenant, rfl, rfl, rfl, ?_, ?_⟩
    · rw [Company.client, hpool, Option.getD_none]
      rfl
    · rw [lead, hpool, if_neg (by simp), alone_succ, alone_one_of_absent hpool]
      change Desk.after (start.engage company.setup (company.job i) tenant) [] = _
      rw [hturn]
      rfl

/-! ## Clients -/

/-- No turn takes a client from the pool. -/
theorem isPrefix_pool_turn (world : World) (job : Job) (engine : Engine) (desk : Desk) :
    engine.pool <+: (desk.turn world job engine).1.pool := by
  rw [Desk.turn]
  split
  · exact (Engine.trades_start job).keeps
  · exact (Engine.trades_resume _ _).keeps
  · exact List.prefix_rfl

/-- The clients that are pooled: those of the start, and clients for the tenants of errands. -/
structure Pooled (company : Company ι) (start engine : Engine) : Prop where
  kept : start.pool <+: engine.pool
  account : ∀ tenantId client, engine.pool.lookup tenantId = some client →
    client.plain = company.client start tenantId
  owner : ∀ tenantId, (engine.pool.lookup tenantId).isSome = true →
    (start.pool.lookup tenantId).isSome = true ∨ ∃ i, (company.job i).tenantId = tenantId

omit [DecidableEq ι] in
theorem Pooled.absent (h : company.Pooled start engine) {tenantId : String}
    (habsent : engine.pool.lookup tenantId = none) : start.pool.lookup tenantId = none := by
  by_contra hpool
  obtain ⟨client, hclient⟩ := Option.ne_none_iff_exists'.mp hpool
  rw [Engine.lookup_of_prefix h.kept hclient] at habsent
  cases habsent

omit [DecidableEq ι] in
theorem pooled_start : company.Pooled start start :=
  ⟨List.prefix_rfl, fun _ _ h => by simp [Company.client, h], fun _ h => .inl h⟩

omit [DecidableEq ι] in
theorem Pooled.of_trades (h : company.Pooled start engine) {backlog : List Client} {turn : Turn}
    {made? : Option (String × Client)} (htrades : engine.Trades backlog turn made?)
    (hmade : ∀ tenantId client, made? = some (tenantId, client) →
      (∃ i, (company.job i).tenantId = tenantId) ∧ client.plain =
        (⟨0, (company.tenants tenantId).id, (company.tenants tenantId).messaging⟩ : Client)) :
    company.Pooled start turn.engine := by
  cases htrades with
  | rests pool created closes surplus => exact ⟨pool ▸ h.kept, pool ▸ h.account, pool ▸ h.owner⟩
  | spares tenantId client pooled number listed pool created closes surplus =>
    exact ⟨pool ▸ h.kept, pool ▸ h.account, pool ▸ h.owner⟩
  | pools tenantId client number absent pool created closes surplus =>
    obtain ⟨howner, haccount⟩ := hmade tenantId client rfl
    have hlookup : ∀ id pooled, turn.engine.pool.lookup id = some pooled →
        engine.pool.lookup id = some pooled ∨ id = tenantId ∧ pooled = client := by
      intro id pooled hpooled
      rw [pool, List.lookup_append, Option.or_eq_some_iff] at hpooled
      refine hpooled.imp_right fun ⟨_, hnew⟩ => ?_
      by_cases hid : id = tenantId
      · subst hid
        exact ⟨rfl, by simpa using hnew.symm⟩
      · simp [List.lookup_cons, beq_false_of_ne hid] at hnew
    refine ⟨h.kept.trans (pool ▸ List.prefix_append _ _), fun id pooled hpooled => ?_,
      fun id hsome => ?_⟩
    · rcases hlookup id pooled hpooled with hold | ⟨rfl, rfl⟩
      · exact h.account id pooled hold
      · rw [haccount, Company.client, h.absent absent]
        rfl
    · obtain ⟨pooled, hpooled⟩ := Option.isSome_iff_exists.mp hsome
      rcases hlookup id pooled hpooled with hold | ⟨rfl, rfl⟩
      · exact h.owner id (by simp [hold])
      · exact .inr howner

/-! ## An errand among others -/

/-- Where an errand stands among others after as many turns as given: it has not begun; it looks for
its tenant; it closes the client that it does not need; or it is where it is alone. -/
inductive Follows (company : Company ι) (start : Engine) (i : ι) (turns : Nat) (engine : Engine) :
    Desk → Prop
  | idle (begun : turns = 0) (agrees : engine.Agrees (company.keys i) start)
      (free : engine.Free (company.keys i)) : Follows company start i turns engine .idle
  | resolving (begun : turns = 1)
      (absent : start.pool.lookup (company.job i).tenantId = none)
      (agrees : engine.Agrees (company.keys i) start) (free : engine.Free (company.keys i)) :
      Follows company start i turns engine ⟨some (.waiting (.resolving (company.job i))
        (.lookup (company.job i).tenantId)), []⟩
  | surplus (client own : Client) (begun : turns = 2)
      (absent : start.pool.lookup (company.job i).tenantId = none)
      (agrees : engine.Agrees (company.keys i) start) (free : engine.Free (company.keys i))
      (account : client.plain = company.client start (company.job i).tenantId)
      (pooled : (engine.pool.lookup (company.job i).tenantId).isSome = true) :
      Follows company start i turns engine
        ⟨some (.waiting (.closingSurplus (company.job i) client) (.close own)), []⟩
  | equipped (n : Nat) (other : Engine) (progress progress' : Progress)
      (calls calls' : List Request) (ahead : n ≤ turns + 1) (behind : turns ≤ n + 1)
      (alone : company.alone start i n = (other, ⟨some progress', calls'⟩))
      (alike : Engine.Alike (company.keys i) engine other progress progress')
      (same : calls.map Request.plain = calls'.map Request.plain)
      (pooled : (engine.pool.lookup (company.job i).tenantId).isSome = true) :
      Follows company start i turns engine ⟨some progress, calls⟩

omit [DecidableEq ι] in
/-- A client that is made is for the tenant of the errand. -/
theorem Follows.of_makes? (h : company.Follows start i turns engine desk) {task : EngineTask}
    {request : Request} (htask : desk.progress? = some (.waiting task request)) {made : Nat}
    {tenantId : String} {client : Client}
    (hmade : engine.makes? company.setup task ((company.world i).answer made request) =
      some (tenantId, client)) :
    (∃ i, (company.job i).tenantId = tenantId) ∧ client.plain =
      (⟨0, (company.tenants tenantId).id, (company.tenants tenantId).messaging⟩ : Client) := by
  cases h with
  | idle begun agrees free => cases htask
  | resolving begun absent agrees free =>
    obtain ⟨rfl, rfl⟩ := Progress.waiting.inj (Option.some.inj htask)
    rw [World.answer, if_neg (by simp [Request.isCall]), Engine.makes?] at hmade
    split at hmade
    · cases hmade
      exact ⟨⟨i, rfl⟩, rfl⟩
    · cases hmade
  | surplus pooled own begun absent agrees free account listed =>
    obtain ⟨rfl, rfl⟩ := Progress.waiting.inj (Option.some.inj htask)
    cases hmade
  | equipped n other progress progress' calls calls' ahead behind alone alike same pooled =>
    obtain rfl := Option.some.inj htask
    rw [Engine.makes?_of_midway alike.equipped] at hmade
    cases hmade

omit [DecidableEq ι] in
/-- The clients that are pooled after a turn of an errand. -/
theorem Follows.pooled_turn (h : company.Follows start i turns engine desk)
    (hpool : company.Pooled start engine) :
    company.Pooled start (desk.turn (company.world i) (company.job i) engine).1 := by
  rw [Desk.turn]
  split
  · exact hpool.of_trades (Engine.trades_start (company.job i)) fun _ _ hmade => by cases hmade
  next task request htask =>
    exact hpool.of_trades (Engine.trades_resume task _) fun _ _ hmade => h.of_makes? htask hmade
  · exact hpool

omit [DecidableEq ι] in
/-- An errand that is where it is has its messages for itself. -/
theorem Follows.minds (h : company.Follows start i turns engine desk) {progress : Progress}
    (hprogress : desk.progress? = some progress) :
    engine.Minds (company.keys i) progress := by
  cases h with
  | idle begun agrees free => cases hprogress
  | resolving begun absent agrees free =>
    obtain rfl := Option.some.inj hprogress
    exact Engine.Minds.of_free (List.Subset.refl _) rfl free
  | surplus client own begun absent agrees free account pooled =>
    obtain rfl := Option.some.inj hprogress
    exact Engine.Minds.of_free (List.Subset.refl _) rfl free
  | equipped n other progress progress' calls calls' ahead behind alone alike same pooled =>
    obtain rfl := Option.some.inj hprogress
    exact alike.minds

omit [DecidableEq ι] in
/-- A turn of an errand touches none of the messages of others. -/
theorem Follows.spares_turn (h : company.Follows start i turns engine desk) :
    engine.Spares (company.keys i) (desk.turn (company.world i) (company.job i) engine).1 := by
  rw [Desk.turn]
  split
  next hidle =>
    cases h with
    | idle begun agrees free =>
      exact (Engine.confined_start (List.Subset.refl _) free).spares
    | resolving begun absent agrees free => cases hidle
    | surplus client own begun absent agrees free account pooled => cases hidle
    | equipped n other progress progress' calls calls' ahead behind alone alike same pooled =>
      cases hidle
  next task request htask => exact (Engine.confined_resume (h.minds htask) _).spares
  · exact .refl _ _

omit [DecidableEq ι] in
/-- The turns of others make no difference to an errand. -/
theorem Follows.of_spares {others : List String} (h : company.Follows start i turns engine desk)
    (hspares : engine.Spares others other) (hdisjoint : (company.keys i).Disjoint others)
    (hpool : engine.pool <+: other.pool) : company.Follows start i turns other desk := by
  have hkept {tenantId : String} (hpooled : (engine.pool.lookup tenantId).isSome = true) :
      (other.pool.lookup tenantId).isSome = true := by
    obtain ⟨client, hclient⟩ := Option.isSome_iff_exists.mp hpooled
    rw [Engine.lookup_of_prefix hpool hclient, Option.isSome_some]
  cases h with
  | idle begun agrees free =>
    exact .idle begun (agrees.of_spares hspares hdisjoint) (free.of_spares hspares hdisjoint)
  | resolving begun absent agrees free =>
    exact .resolving begun absent (agrees.of_spares hspares hdisjoint)
      (free.of_spares hspares hdisjoint)
  | surplus client own begun absent agrees free account pooled =>
    exact .surplus client own begun absent (agrees.of_spares hspares hdisjoint)
      (free.of_spares hspares hdisjoint) account (hkept pooled)
  | equipped n alone? progress progress' calls calls' ahead behind alone alike same pooled =>
    exact .equipped n alone? progress progress' calls calls' ahead behind alone
      (alike.of_spares hspares hdisjoint) same (hkept pooled)

section

variable (hresolves : (company.world i).Resolves start (company.job i).tenantId)
  (hquiet : start.Free (company.keys i))

include hresolves hquiet

omit [DecidableEq ι] in
/-- An errand that has got its client has caught up with itself alone. -/
theorem follows_of_proceed {client : Client}
    (hclient : client.plain = company.client start (company.job i).tenantId)
    (hfree : engine.Free (company.keys i)) (hagrees : engine.Agrees (company.keys i) start)
    (hhandlers : engine.handlers = start.handlers)
    (hpooled : (engine.pool.lookup (company.job i).tenantId).isSome = true)
    (hahead : company.lead start i ≤ turns + 1) (hbehind : turns ≤ company.lead start i + 1) :
    company.Follows start i turns
      (engine.proceed company.setup.retry client (company.job i)).engine
      ⟨some (engine.proceed company.setup.retry client (company.job i)).progress, []⟩ := by
  obtain ⟨base, client', hprocessed, hinFlight, hhandlers', hclient', halone⟩ :=
    exists_alone_lead hresolves
  have hfree' : base.Free (company.keys i) := fun key hkey => by
    rw [hinFlight, hquiet key hkey]
  have hagrees' : engine.Agrees (company.keys i) base := fun key hkey => by
    rw [hprocessed, hagrees key hkey]
  refine .equipped _ _ _ _ _ _ hahead hbehind halone
    (Engine.alike_proceed (hclient.trans hclient'.symm) (company.errands i).works
      (List.Subset.refl _) hfree hfree' hagrees' (hhandlers.trans hhandlers'.symm)) rfl ?_
  rw [(Engine.carries_proceed client (company.job i)).pool]
  exact hpooled

omit [DecidableEq ι] in
/-- With its own turn an errand goes on to follow itself alone. -/
theorem Follows.turn (h : company.Follows start i turns engine desk)
    (hpool : company.Pooled start engine) (hhandlers : engine.handlers = start.handlers) :
    company.Follows start i (turns + 1)
      (desk.turn (company.world i) (company.job i) engine).1
      (desk.turn (company.world i) (company.job i) engine).2 := by
  have hlead : company.lead start i = 1 ∨ company.lead start i = 2 := by
    unfold lead
    split
    · exact .inl rfl
    · exact .inr rfl
  cases h with
  | idle begun agrees free =>
    change company.Follows start i _ (engine.start company.setup (company.job i)).engine
      ⟨some (engine.start company.setup (company.job i)).progress, []⟩
    cases hclient : engine.pool.lookup (company.job i).tenantId with
    | some client =>
      obtain ⟨entries, hturn⟩ := @Engine.start_of_pooled company.setup _ _ _ hclient
      rw [hturn]
      exact follows_of_proceed hresolves hquiet (hpool.account _ _ hclient) free agrees hhandlers
        (by rw [hclient]; rfl) (by omega) (by omega)
    | none =>
      obtain ⟨entries, hturn⟩ := @Engine.start_of_absent company.setup _ _ hclient
      rw [hturn]
      exact .resolving (by omega) (hpool.absent hclient) agrees free
  | resolving begun absent agrees free =>
    let tenant := company.tenants (company.job i).tenantId
    have hobstacle : company.setup.obstacle tenant = none :=
      hresolves.resolve_left (by simp [absent])
    change company.Follows start i _ (engine.engage company.setup (company.job i) tenant).engine
      ⟨some (engine.engage company.setup (company.job i) tenant).progress, []⟩
    cases hclient : engine.pool.lookup (company.job i).tenantId with
    | some client =>
      have hpooled : (engine.pool.lookup (company.job i).tenantId).isSome = true := by
        rw [hclient, Option.isSome_some]
      rw [Engine.engage_of_pooled hobstacle hclient]
      exact .surplus client _ (by omega) absent agrees free (hpool.account _ _ hclient) hpooled
    | none =>
      obtain ⟨entries, hturn⟩ := Engine.engage_of_absent hobstacle hclient
      rw [hturn]
      refine follows_of_proceed hresolves hquiet ?_ free agrees hhandlers ?_ (by omega) (by omega)
      · rw [Company.client, absent, Option.getD_none]
        rfl
      · simp [Engine.withClient, List.lookup_append, hclient]
  | surplus client own begun absent agrees free account pooled =>
    have htwo : company.lead start i = 2 := by simp [lead, absent]
    change company.Follows start i _
      (engine.proceed company.setup.retry client (company.job i)).engine
      ⟨some (engine.proceed company.setup.retry client (company.job i)).progress, []⟩
    refine follows_of_proceed hresolves hquiet account free agrees hhandlers pooled ?_ ?_
    · omega
    · omega
  | equipped n other progress progress' calls calls' ahead behind alone alike same pooled =>
    have hnext := @alone_succ _ company start i n
    rw [alone] at hnext
    cases progress with
    | finished result =>
      cases progress' with
      | waiting task' request' => cases alike.plain
      | finished result' =>
        exact .equipped (n + 1) other _ _ calls calls' (by omega) (by omega) hnext alike same pooled
    | waiting task request =>
      cases progress' with
      | finished result' => cases alike.plain
      | waiting task' request' =>
        obtain ⟨-, hrequest⟩ := Progress.waiting.inj alike.plain
        have hanswer : (company.world i).answer calls.length request =
            (company.world i).answer calls'.length request' := by
          rw [← World.answer_plain, hrequest, World.answer_plain,
            ← calls.length_map Request.plain, same, List.length_map]
        have hmade : (calls ++ (Progress.waiting task request).calling).map Request.plain =
            (calls' ++ (Progress.waiting task' request').calling).map Request.plain := by
          rw [List.map_append, List.map_append, same, ← Progress.calling_plain, alike.plain,
            Progress.calling_plain]
        let answer := (company.world i).answer calls.length request
        have hresumed := @Engine.Alike.resume company.setup _ _ _ _ _ _ _ alike answer
        have hcarries := @Engine.carries_resume company.setup engine task alike.equipped answer
        have hpooled : ((engine.resume company.setup task answer).engine.pool.lookup
            (company.job i).tenantId).isSome = true := by rw [hcarries.pool, pooled]
        have halone : company.alone start i (n + 1) = Desk.after
            (other.resume company.setup task' answer)
            (calls' ++ (Progress.waiting task' request').calling) := by
          simp only [answer, hanswer]
          exact hnext
        exact .equipped (n + 1) _ _ _ _ _ (by omega) (by omega) halone hresumed hmade hpooled

end

/-! ## All errands -/

theorem desks_step_self (office : Office ι) : (company.step office i).desks i =
    ((office.desks i).turn (company.world i) (company.job i) office.engine).2 :=
  Function.update_self _ _ _

theorem desks_step_of_ne {office : Office ι} {j : ι} (h : j ≠ i) :
    (company.step office i).desks j = office.desks j := Function.update_of_ne h _ _

/-- What is true of the errands at any time: each follows itself alone, and nobody has touched what
belongs to none of them. -/
structure Course (company : Company ι) (start : Engine) (schedule : List ι) (office : Office ι) :
    Prop where
  follows : ∀ i, company.Follows start i (schedule.count i) office.engine (office.desks i)
  pooled : company.Pooled start office.engine
  handlers : office.engine.handlers = start.handlers
  processed : ∀ key, (∀ i, key ∉ company.keys i) →
    (key ∈ office.engine.processed ↔ key ∈ start.processed)
  inFlight : ∀ key, (∀ i, key ∉ company.keys i) →
    office.engine.inFlight.lookup key = start.inFlight.lookup key

section

variable {schedule : List ι} {office : Office ι}
  (hresolves : ∀ i, (company.world i).Resolves start (company.job i).tenantId)
  (hdisjoint : ∀ i j, i ≠ j → (company.keys i).Disjoint (company.keys j))
  (hquiet : start.inFlight = [])

include hresolves hdisjoint hquiet

theorem Course.step (h : company.Course start schedule office) (i : ι) :
    company.Course start (schedule ++ [i]) (company.step office i) := by
  have hspares := (h.follows i).spares_turn
  have hpooled := (h.follows i).pooled_turn h.pooled
  have hfree : start.Free (company.keys i) := fun key _ => by rw [hquiet]; rfl
  have hturn := (h.follows i).turn (hresolves i) hfree h.pooled h.handlers
  refine ⟨fun j => ?_, hpooled, hspares.handlers.trans h.handlers, fun key hkey => ?_,
    fun key hkey => ?_⟩
  · rcases eq_or_ne j i with rfl | hne
    · rw [List.count_append, List.count_singleton_self, desks_step_self]
      exact hturn
    · have hcount : (schedule ++ [i]).count j = schedule.count j := by
        simp [List.count_append, hne.symm]
      rw [hcount, desks_step_of_ne hne]
      exact (h.follows j).of_spares hspares (hdisjoint j i hne) (isPrefix_pool_turn _ _ _ _)
  · exact (hspares.processed key (hkey i)).trans (h.processed key hkey)
  · exact (hspares.inFlight key (hkey i)).trans (h.inFlight key hkey)

theorem course_run (schedule : List ι) :
    company.Course start schedule (company.run start schedule) := by
  -- from the end, as the last turn is made where the others have led
  induction schedule using List.reverseRecOn with
  | nil =>
    refine ⟨fun i => ?_, pooled_start, rfl, fun _ _ => Iff.rfl, fun _ _ => rfl⟩
    exact .idle rfl (fun _ _ => Iff.rfl) fun key _ => by
      change start.inFlight.lookup key = none
      rw [hquiet]
      rfl
  | append_singleton schedule i ih =>
    rw [Company.run, List.foldl_append]
    exact ih.step hresolves hdisjoint hquiet i

end

omit [DecidableEq ι] in
/-- What an errand has done, as itself alone. -/
theorem Follows.same_course (h : company.Follows start i turns engine desk) :
    ∃ n, n ≤ turns + 1 ∧ turns ≤ n + 1 ∧
      desk.made.map Request.plain = ((company.alone start i n).2.made).map Request.plain ∧
      (∀ key ∈ company.keys i,
        key ∈ engine.processed ↔ key ∈ (company.alone start i n).1.processed) ∧
      ∀ result, desk.progress? = some (.finished result) ↔
        (company.alone start i n).2.progress? = some (.finished result) := by
  cases h with
  | idle begun agrees free =>
    exact ⟨0, by omega, by omega, rfl, agrees, fun _ => Iff.rfl⟩
  | resolving begun absent agrees free =>
    refine ⟨1, by omega, by omega, ?_⟩
    rw [alone_one_of_absent absent]
    exact ⟨rfl, agrees, fun _ => Iff.rfl⟩
  | surplus client own begun absent agrees free account pooled =>
    refine ⟨1, by omega, by omega, ?_⟩
    rw [alone_one_of_absent absent]
    refine ⟨rfl, agrees, fun result => ⟨fun h => ?_, fun h => ?_⟩⟩
    · cases h
    · cases h
  | equipped n other progress progress' calls calls' ahead behind alone alike same pooled =>
    refine ⟨n, ahead, behind, ?_⟩
    rw [alone]
    refine ⟨?_, alike.agrees, fun result => ?_⟩
    · change (calls ++ progress.calling).map Request.plain =
        (calls' ++ progress'.calling).map Request.plain
      rw [List.map_append, List.map_append, same, ← progress.calling_plain, alike.plain,
        progress'.calling_plain]
    · exact Option.some_inj.trans ((Progress.eq_finished_iff alike.plain).trans
        Option.some_inj.symm)

omit [DecidableEq ι] in
/-- A finished errand is finished alone, with the same record of its messages, none of which is in
flight any more, and with its client pooled. -/
theorem Follows.of_finished (h : company.Follows start i turns engine desk)
    {result : Except Failure JobResult} (hfinished : desk.progress? = some (.finished result)) :
    (∃ n, (company.alone start i n).2.progress? = some (.finished result) ∧
      engine.Agrees (company.keys i) (company.alone start i n).1) ∧
    engine.Free (company.keys i) ∧
      (engine.pool.lookup (company.job i).tenantId).isSome = true := by
  cases h with
  | idle begun agrees free => cases hfinished
  | resolving begun absent agrees free => cases hfinished
  | surplus client own begun absent agrees free account pooled => cases hfinished
  | equipped n other progress progress' calls calls' ahead behind alone alike same pooled =>
    obtain rfl := Option.some.inj hfinished
    have hfinished' := (Progress.eq_finished_iff alike.plain).mp rfl
    refine ⟨⟨n, ?_⟩, fun key hkey => alike.minds.free key hkey (Option.some_ne_none key).symm,
      pooled⟩
    rw [alone, hfinished']
    exact ⟨rfl, alike.agrees⟩

omit [DecidableEq ι] in
/-- When every errand has its client, it is settled for which tenants there are clients. -/
theorem Pooled.map_plain_eq (h : company.Pooled start engine) (h' : company.Pooled start other)
    (hserved : ∀ i, (engine.pool.lookup (company.job i).tenantId).isSome = true)
    (hserved' : ∀ i, (other.pool.lookup (company.job i).tenantId).isSome = true)
    (tenantId : String) : (engine.pool.lookup tenantId).map Client.plain =
      (other.pool.lookup tenantId).map Client.plain := by
  have hsome : ∀ {engine other : Engine}, company.Pooled start engine →
      company.Pooled start other →
      (∀ i, (other.pool.lookup (company.job i).tenantId).isSome = true) →
      (engine.pool.lookup tenantId).isSome = true →
        (other.pool.lookup tenantId).isSome = true := by
    intro engine other h h' hserved hpooled
    rcases h.owner tenantId hpooled with hstart | ⟨i, rfl⟩
    · obtain ⟨client, hclient⟩ := Option.isSome_iff_exists.mp hstart
      rw [Engine.lookup_of_prefix h'.kept hclient, Option.isSome_some]
    · exact hserved i
  cases hpool : engine.pool.lookup tenantId with
  | some client =>
    obtain ⟨client', hclient'⟩ :=
      Option.isSome_iff_exists.mp (hsome h h' hserved' (by rw [hpool, Option.isSome_some]))
    rw [hclient', Option.map_some, Option.map_some, h.account _ _ hpool, h'.account _ _ hclient']
  | none =>
    cases hpool' : other.pool.lookup tenantId with
    | none => rfl
    | some client =>
      have hpooled := hsome h' h hserved (by rw [hpool', Option.isSome_some])
      rw [hpool] at hpooled
      cases hpooled

theorem eq_nil_of_lookup {β : Type} {entries : List (String × β)}
    (h : ∀ key, entries.lookup key = none) : entries = [] := by
  refine List.eq_nil_iff_forall_not_mem.mpr fun entry hentry => ?_
  simpa using List.lookup_eq_none_iff.mp (h entry.1) entry hentry

/-- Syncs and lists of actions whose tenants are found do not interfere, when no two of them have a
message in common and no message is in flight at the start. -/
theorem independent_run (company : Company ι) (start : Engine)
    (hresolves : ∀ i, (company.world i).Resolves start (company.job i).tenantId)
    (hdisjoint : ∀ i j, i ≠ j → (company.keys i).Disjoint (company.keys j))
    (hquiet : start.inFlight = []) : company.Independent start := by
  have hcourse := @course_run _ _ company start hresolves hdisjoint hquiet
  refine ⟨fun schedule i => ((hcourse schedule).follows i).same_course,
    fun schedule schedule' hdone hdone' => ?_⟩
  have hserved {schedule : List ι} (hdone : (company.run start schedule).Done) (i : ι) :=
    ((hcourse schedule).follows i).of_finished (hdone i).choose_spec
  refine ⟨fun key => ?_, eq_nil_of_lookup fun key => ?_, ?_⟩
  · by_cases hkey : ∃ i, key ∈ company.keys i
    · obtain ⟨i, hkey⟩ := hkey
      obtain ⟨⟨m, hm, hagrees⟩, -⟩ := hserved hdone i
      obtain ⟨⟨n, hn, hagrees'⟩, -⟩ := hserved hdone' i
      rw [hagrees key hkey, hagrees' key hkey, alone_eq_of_finished hm hn]
    · have hothers := not_exists.mp hkey
      rw [(hcourse schedule).processed key hothers, (hcourse schedule').processed key hothers]
  · by_cases hkey : ∃ i, key ∈ company.keys i
    · obtain ⟨i, hkey⟩ := hkey
      obtain ⟨-, hfree, -⟩ := hserved hdone i
      exact hfree key hkey
    · rw [(hcourse schedule).inFlight key (not_exists.mp hkey), hquiet]
      rfl
  · exact (hcourse schedule).pooled.map_plain_eq (hcourse schedule').pooled
      (fun i => (hserved hdone i).2.2) fun i => (hserved hdone' i).2.2

/-- Two conversations of a tenant are welcomed with a message of the same key in their plans, and
the first attempt to send the second message fails. -/
def welcomes : Company Bool where
  setup := ⟨.standard, fun _ => none⟩
  tenants := fun tenantId => ⟨tenantId, "Bakery", ⟨"https://chat.example", "token", 1⟩, []⟩
  errands := fun second =>
    { job := .sync "bakery" (.ofNat (if second then 8 else 7))
        ⟨[("hello", ⟨.message, .str "Hi!"⟩)], .none, [], []⟩
      outcome := fun attempt =>
        if second ∧ attempt = 1 then some (.platform ⟨"HTTP 503", some 503, []⟩) else none
      works := fun _ h => by cases h }

theorem independent_run_welcomes :
    let office := welcomes.run .initial
      [false, true, false, true, true, true, false, true, true]
    let client : Client := ⟨1, "bakery", ⟨"https://chat.example", "token", 1⟩⟩
    let call : Request := .call client (.ofNat 8) (.send "Hi!")
    welcomes.Independent .initial ∧ office.Done ∧ (office.desks true).made = [call, call] := by
  have hdisjoint : ∀ i j, i ≠ j → ∀ key ∈ welcomes.keys i, key ∉ welcomes.keys j := by decide
  refine ⟨independent_run _ _ (fun _ => .inr rfl)
    (fun i j hne => List.disjoint_left.mpr (hdisjoint i j hne)) rfl, fun i => ?_, ?_⟩
  · cases i with
    | false => exact ⟨_, rfl⟩
    | true => exact ⟨_, rfl⟩
  · rfl

end Company

end Automation
