import Automation.Proofs.Sync.Effort

/-!
# A sync implements its plan

A sync alone makes the calls of all efforts of its plan in order, each as often as it takes to
settle it. What has become of an effort changes nothing about the later ones, and the result counts
what has landed and has one line for each effort that has failed. Only options that allow attempts
without end can keep a sync from its later efforts.

## Main definitions

* `Performed`, `Stalled`, `Implements` — what becomes of efforts in a run.

## Main statements

* `Implements.of_retries` — a retried call that is settled leaves the later efforts as they are.
* `Engine.implements_proceedChanges`, `Engine.implements_proceedMessages` — the parts of a sync.
* `Solo.implements_start` — a sync alone implements its plan.
* `Implements.exists_performed` — with a whole number of attempts, all efforts are performed.
-/

namespace Automation

/-- From a point of a run on, performances are made and the sync is finished: they go as the world
has it, the calls of the run are theirs, the result so far includes them, nothing is in flight, and
the keys that were not processed in the engine before are those of the messages that were sent. -/
structure Performed (world : World) (channel : Channel) (result : SyncResult) (engine : Engine)
    (solo : Solo) (performances : List Performance) (last : Solo) : Prop where
  reaches : solo.Reaches world last
  performs : world.Performs solo.calls.length performances
  calls : last.calls = solo.calls ++ performances.flatMap (Performance.requests channel)
  result : last.load.tasks =
    [.reached (.finished (.ok (.synced (result.including performances))))]
  inFlight : last.load.engine.inFlight = []
  processed : ∀ key, key ∈ last.load.engine.processed ↔
    key ∈ engine.processed ∨ ∃ performance ∈ performances, performance.Marks channel key

/-- From a point of a run on, performances are made as the world has it, and then the call of a
further effort is made over and over: it always fails, and no attempt is the last one allowed. -/
structure Stalled (world : World) (channel : Channel) (solo : Solo)
    (performances : List Performance) (effort : Effort) : Prop where
  performs : world.Performs solo.calls.length performances
  unlimited : ∀ attempt, 0 < attempt → world.setup.retry.isLast attempt = false
  fails : ∀ attempt, 0 < attempt → (world.outcome
    (solo.calls.length + (performances.map Performance.attempts).sum + attempt)).isSome = true
  calls : ∀ attempts, ∃ later, solo.Reaches world later ∧
    later.calls = solo.calls ++ performances.flatMap (Performance.requests channel) ++
      List.replicate attempts (effort.request channel)

/-- From a point of a run on, efforts are implemented: all of them are performed in order, unless
the call of one of them goes on for ever. -/
def Implements (world : World) (channel : Channel) (result : SyncResult) (engine : Engine)
    (solo : Solo) (efforts : List Effort) : Prop :=
  (∃ performances last, performances.map Performance.effort = efforts ∧
    Performed world channel result engine solo performances last) ∨
  ∃ performances effort rest, efforts = performances.map Performance.effort ++ effort :: rest ∧
    Stalled world channel solo performances effort

/-- At no point of the run are there calls that are not among those of the performances. -/
theorem Performed.isPrefix_calls {world : World} {channel : Channel} {result : SyncResult}
    {engine : Engine} {solo last : Solo} {performances : List Performance}
    (h : Performed world channel result engine solo performances last) (n : Nat) :
    ((Solo.step world)^[n] solo).calls <+:
      solo.calls ++ performances.flatMap (Performance.requests channel) := by
  rw [← h.calls]
  exact h.reaches.isPrefix_calls h.result n

namespace Implements

variable {world : World} {channel : Channel} {result : SyncResult} {engine other : Engine}
  {solo later : Solo} {efforts : List Effort} {effort : Effort}

theorem nil (hidle : engine.inFlight = []) (entries : List LogEntry) (calls : List Request) :
    Implements world channel result engine
      (.ofTurn ((engine.finish (.ok (.synced result))).after entries) calls) [] := by
  have hresult := SyncResult.including_nil result
  refine .inl ⟨[], .ofTurn (engine.finish (.ok (.synced result))) calls, rfl, ?_⟩
  exact {
    reaches := .refl _
    performs := trivial
    calls := (List.append_nil _).symm
    result := by rw [hresult]; rfl
    inFlight := hidle
    processed := by simp [Solo.ofTurn, Engine.finish] }

/-- What a run does before its first call changes nothing about its efforts. -/
theorem of_reaches (hreaches : solo.Reaches world later) (hcalls : later.calls = solo.calls)
    (hprocessed : other.processed = engine.processed)
    (h : Implements world channel result other later efforts) :
    Implements world channel result engine solo efforts := by
  rcases h with ⟨performances, last, hefforts, hperformed⟩ |
    ⟨performances, effort, rest, hefforts, hstalled⟩
  · exact .inl ⟨performances, last, hefforts, {
      reaches := hreaches.trans hperformed.reaches
      performs := hcalls ▸ hperformed.performs
      calls := hcalls ▸ hperformed.calls
      result := hperformed.result
      inFlight := hperformed.inFlight
      processed := hprocessed ▸ hperformed.processed }⟩
  · refine .inr ⟨performances, effort, rest, hefforts, hcalls ▸ hstalled.performs,
      hstalled.unlimited, hcalls ▸ hstalled.fails, fun attempts => ?_⟩
    obtain ⟨last, hlast, hmade⟩ := hstalled.calls attempts
    exact ⟨last, hreaches.trans hlast, hcalls ▸ hmade⟩

/-- An effort that has been performed stands in front of those that are implemented from there. -/
theorem cons (performance : Performance)
    (hleast : IsLeast {attempt | 0 < attempt ∧ world.Settles solo.calls.length attempt}
      performance.attempts)
    (hfailure : performance.failure? = world.outcome (solo.calls.length + performance.attempts))
    (hreaches : solo.Reaches world later)
    (hcalls : later.calls = solo.calls ++ performance.requests channel)
    (hprocessed : ∀ key, key ∈ other.processed ↔
      key ∈ engine.processed ∨ performance.Marks channel key)
    (h : Implements world channel (result.including [performance]) other later efforts) :
    Implements world channel result engine solo (performance.effort :: efforts) := by
  have hlength : later.calls.length = solo.calls.length + performance.attempts := by
    simp [hcalls, Performance.requests]
  rcases h with ⟨performances, last, rfl, hperformed⟩ |
    ⟨performances, effort, rest, rfl, hstalled⟩
  · refine .inl ⟨performance :: performances, last, rfl, ?_⟩
    exact {
      reaches := hreaches.trans hperformed.reaches
      performs := ⟨hleast, hfailure, hlength ▸ hperformed.performs⟩
      calls := by rw [hperformed.calls, hcalls, List.flatMap_cons, List.append_assoc]
      result := by rw [hperformed.result, ← SyncResult.including_append]; rfl
      inFlight := hperformed.inFlight
      processed := by
        intro key
        rw [hperformed.processed, hprocessed, List.exists_mem_cons_iff, or_assoc] }
  · refine .inr ⟨performance :: performances, effort, rest, rfl, ?_⟩
    have hsum : solo.calls.length +
        ((performance :: performances).map Performance.attempts).sum =
        later.calls.length + (performances.map Performance.attempts).sum := by
      simp [hlength, Nat.add_assoc]
    refine ⟨⟨hleast, hfailure, hlength ▸ hstalled.performs⟩, hstalled.unlimited, ?_,
      fun attempts => ?_⟩
    · rw [hsum]
      exact hstalled.fails
    · obtain ⟨last, hlast, hlastCalls⟩ := hstalled.calls attempts
      refine ⟨last, hreaches.trans hlast, ?_⟩
      rw [hlastCalls, hcalls, List.flatMap_cons, List.append_assoc solo.calls]

/-- An effort whose call is retried is performed, and those behind it are implemented whatever has
become of it; unless its call goes on for ever. -/
theorem of_retries {task : Retrying → EngineTask} {onEnd : Option Failure → Turn}
    {backoff : Backoff} {calls : List Request} {current : Engine} (after : Option Failure → Engine)
    (hretries : current.Retries world.setup task (effort.request channel) onEnd)
    (hcomputes : world.setup.retry.Computes)
    (hfirst : Backoff.first world.setup.retry = .ok backoff)
    (hprocessed : ∀ attempts failure? key, key ∈ (after failure?).processed ↔
      key ∈ engine.processed ∨ (Performance.mk effort attempts failure?).Marks channel key)
    (h : ∀ attempts failure? calls,
      Implements world channel (result.including [⟨effort, attempts, failure?⟩]) (after failure?)
        (.ofTurn (onEnd failure?) calls) efforts) :
    Implements world channel result engine
      (.ofTurn (current.wait (task (.trying backoff)) (effort.request channel)) calls)
      (effort :: efforts) := by
  by_cases hsettled : ∃ attempt, 0 < attempt ∧ world.Settles calls.length attempt
  · classical
    let attempts := Nat.find hsettled
    have hleast : IsLeast {attempt | 0 < attempt ∧ world.Settles calls.length attempt} attempts :=
      ⟨Nat.find_spec hsettled, fun _ h => Nat.find_min' hsettled h⟩
    exact cons ⟨effort, attempts, world.outcome (calls.length + attempts)⟩ hleast
      rfl (hretries.reaches_of_isLeast rfl hcomputes hfirst hleast) rfl (hprocessed _ _) (h _ _ _)
  · have hendless : ∀ attempt, 0 < attempt → ¬ world.Settles calls.length attempt :=
      fun attempt hpos hsettles => hsettled ⟨attempt, hpos, hsettles⟩
    refine .inr ⟨[], effort, efforts, rfl, trivial, fun attempt hpos => ?_,
      fun attempt hpos => ?_, fun attempts => ?_⟩
    · exact Bool.eq_false_iff.mpr (not_or.mp (hendless attempt hpos)).2
    · exact Option.isSome_iff_ne_none.mpr (not_or.mp (hendless attempt hpos)).1
    · simpa using hretries.exists_reaches rfl hcomputes hfirst hendless attempts

/-- With a whole number of attempts, all efforts are performed. -/
theorem exists_performed {limit : Int}
    (hlimit : world.setup.retry.maxAttempts.value = .int limit)
    (h : Implements world channel result engine solo efforts) :
    ∃ performances last, performances.map Performance.effort = efforts ∧
      Performed world channel result engine solo performances last := by
  refine h.resolve_right ?_
  rintro ⟨performances, effort, rest, -, hstalled⟩
  have hlast : world.setup.retry.isLast (max 1 limit).toNat = true :=
    (RetryOptions.isLast_iff hlimit).mpr (by omega)
  rw [hstalled.unlimited _ (by omega)] at hlast
  cases hlast

end Implements

namespace Syncing

/-- The conversation that a sync is about. -/
def channel (sync : Syncing) : Channel := ⟨sync.client, sync.tenantId, sync.conversation⟩

variable (sync : Syncing) (change : Change) (failure? : Option Failure) (attempts : Nat)

theorem channel_concludeChange :
    (sync.concludeChange change failure?).1.channel = sync.channel := by
  cases failure? <;> rfl

theorem changes_concludeChange :
    (sync.concludeChange change failure?).1.changes = sync.changes := by
  cases failure? <;> rfl

theorem result_concludeChange : (sync.concludeChange change failure?).1.result =
    sync.result.including [⟨.ofChange change, attempts, failure?⟩] := by
  cases failure? with
  | none =>
    rw [SyncResult.including_success]
    cases change <;> simp [concludeChange, Change.applied, Effort.ofChange, Effort.messages,
      Effort.labels, Effort.attributes]
  | some failure =>
    rw [SyncResult.including_failure, Effort.title_ofChange]
    rfl

/-- The result of a sync whose own send has ended. -/
theorem result_settled (key : String) (value : Json) (flight : Nat) :
    ((Attendance.mk .sender sync key flight).settled (.ofFailure? failure?)).result =
      sync.result.including [⟨.message key value, attempts, failure?⟩] := by
  cases failure? with
  | none =>
    rw [SyncResult.including_success]
    simp [Attendance.settled, Landing.ofFailure?, Landing.settle, Effort.messages, Effort.labels,
      Effort.attributes]
  | some failure =>
    rw [SyncResult.including_failure, Effort.title_message]
    rfl

end Syncing

namespace Engine

variable {world : World} {engine : Engine} {backoff : Backoff}

theorem retries_changing (engine : Engine) (sync : Syncing) (change : Change) :
    engine.Retries world.setup (.changing sync change)
      ((Effort.ofChange change).request sync.channel) fun failure? =>
        proceedChanges world.setup.retry engine (sync.concludeChange change failure?).1
          sync.changes := by
  intro retrying answer
  rcases hstep : retrying.step world.setup.retry answer with ⟨step, entries⟩
  simp only [resume, hstep, Effort.request_ofChange]
  cases step with
  | attempt backoff => exact ⟨_, rfl⟩
  | pause seconds backoff => exact ⟨_, rfl⟩
  | ended failure? =>
    simp only [continueCall, Syncing.changes_concludeChange, Turn.after_after]
    exact ⟨_, rfl⟩

theorem retries_sending (engine : Engine) (sync : Syncing) (key : String) (value : Json)
    (flight : Nat) :
    engine.Retries world.setup (.sending sync key value flight)
      ((Effort.message key value).request sync.channel) fun failure? =>
        proceedMessages world.setup.retry
          (engine.land (sync.channel.messageKey key) flight (.ofFailure? failure?))
          ((Attendance.mk .sender sync key flight).settled (.ofFailure? failure?))
          sync.messages := by
  intro retrying answer
  rcases hstep : retrying.step world.setup.retry answer with ⟨step, entries⟩
  simp only [resume, hstep]
  cases step with
  | attempt backoff => exact ⟨_, rfl⟩
  | pause seconds backoff => exact ⟨_, rfl⟩
  | ended failure? =>
    simp only [continueCall, Turn.after_after]
    cases failure? with
    | none => exact ⟨_, rfl⟩
    | some failure => exact ⟨_, rfl⟩

/-- The changes of a sync are implemented, each whatever has become of those before. -/
theorem implements_proceedChanges (hcomputes : world.setup.retry.Computes)
    (hfirst : Backoff.first world.setup.retry = .ok backoff) (hidle : engine.inFlight = [])
    (sync : Syncing) (changes : List Change) (calls : List Request) :
    Implements world sync.channel sync.result engine
      (.ofTurn (proceedChanges world.setup.retry engine sync changes) calls)
      (changes.map Effort.ofChange) := by
  induction changes generalizing sync calls with
  | nil => exact .nil hidle _ calls
  | cons change rest ih =>
    let left : Syncing := { sync with messages := [], changes := rest }
    have hretries := @retries_changing world engine left change
    have hwait : proceedChanges world.setup.retry engine sync (change :: rest) =
        engine.wait (.changing left change (.trying backoff))
          ((Effort.ofChange change).request sync.channel) := by
      simp only [proceedChanges, hfirst, Effort.request_ofChange]
      rfl
    rw [hwait, List.map_cons]
    refine .of_retries (fun _ => engine) hretries hcomputes hfirst ?_ ?_
    · intro attempts failure? key
      simp [Performance.Marks, Effort.messageKey?_ofChange]
    · intro attempts failure? calls
      have hrest := ih (left.concludeChange change failure?).1 calls
      rwa [Syncing.channel_concludeChange, Syncing.result_concludeChange _ _ _ attempts] at hrest

/-- The engine once a message that it puts in flight has landed. -/
def flown (engine : Engine) (key : String) (failure? : Option Failure) : Engine :=
  (engine.reserve key).1.land key engine.flights.length (.ofFailure? failure?)

theorem inFlight_flown (hidle : engine.inFlight = []) (key : String) (failure? : Option Failure) :
    (engine.flown key failure?).inFlight = [] := by
  simp [flown, land, reserve, hidle]

/-- A message that has landed is processed when it was delivered. -/
theorem mem_processed_flown {key : String} (hfresh : key ∉ engine.processed)
    (failure? : Option Failure) (other : String) :
    other ∈ (engine.flown key failure?).processed ↔
      other ∈ engine.processed ∨ failure? = none ∧ other = key := by
  cases failure? with
  | none => simp [flown, land, reserve, Landing.ofFailure?, List.mem_insert_iff, or_comm]
  | some failure =>
    have hother : other ∈ engine.processed → other ≠ key := fun hmem heq => hfresh (heq ▸ hmem)
    simp only [flown, land, reserve, Landing.ofFailure?, List.mem_filter, List.mem_insert_iff,
      decide_eq_true_eq, reduceCtorEq, false_and, or_false]
    exact ⟨fun h => h.1.resolve_left h.2, fun hmem => ⟨.inr hmem, hother hmem⟩⟩

theorem seen_flown {channel : Channel} {key other : String} (hne : other ≠ key)
    (hseen : channel.seen engine key = false) (failure? : Option Failure) :
    channel.seen (engine.flown (channel.messageKey key) failure?) other =
      channel.seen engine other := by
  rw [Bool.eq_iff_iff, Channel.seen_iff, Channel.seen_iff,
    mem_processed_flown (Channel.not_mem_of_seen hseen), Channel.messageKey_inj]
  simp [hne]

/-- The messages of a sync are implemented, and its changes behind them. -/
theorem implements_proceedMessages (hcomputes : world.setup.retry.Computes)
    (hfirst : Backoff.first world.setup.retry = .ok backoff) (hidle : engine.inFlight = [])
    (sync : Syncing) {messages : List (String × Json)} (hkeys : (messages.map Prod.fst).Nodup)
    (calls : List Request) :
    Implements world sync.channel sync.result engine
      (.ofTurn (proceedMessages world.setup.retry engine sync messages) calls)
      (Effort.unseen (sync.channel.seen engine) messages ++ sync.changes.map Effort.ofChange) := by
  induction messages generalizing engine sync calls with
  | nil => exact implements_proceedChanges hcomputes hfirst hidle sync sync.changes calls
  | cons message rest ih =>
    obtain ⟨key, value⟩ := message
    obtain ⟨hother, hkeys⟩ : key ∉ rest.map Prod.fst ∧ (rest.map Prod.fst).Nodup :=
      List.nodup_cons.mp hkeys
    have hlookup : engine.inFlight.lookup (sync.messageKey key) = none := by simp [hidle]
    cases hseen : sync.channel.seen engine key with
    | true =>
      have hskip : ∃ entries,
          proceedMessages world.setup.retry engine sync ((key, value) :: rest) =
            (proceedMessages world.setup.retry engine sync rest).after entries := by
        simp only [proceedMessages, hlookup]
        exact ⟨_, if_pos hseen⟩
      obtain ⟨entries, hskip⟩ := hskip
      rw [hskip, Solo.ofTurn_after, Effort.unseen_cons_of_seen hseen]
      exact ih hidle sync hkeys calls
    | false =>
      let left : Syncing := { sync with messages := rest }
      have hwait : proceedMessages world.setup.retry engine sync ((key, value) :: rest) =
          (engine.reserve (sync.channel.messageKey key)).1.wait
            (.sending left key value engine.flights.length (.trying backoff))
            ((Effort.message key value).request sync.channel) := by
        simp only [proceedMessages, hlookup, hfirst]
        exact if_neg (Bool.not_eq_true _ ▸ hseen)
      rw [hwait, Effort.unseen_cons_of_unseen hseen, List.cons_append]
      refine .of_retries (engine.flown (sync.channel.messageKey key))
        (retries_sending _ left key value _) hcomputes hfirst (fun attempts failure? other => ?_)
        fun attempts failure? calls => ?_
      · rw [mem_processed_flown (Channel.not_mem_of_seen hseen), Performance.marks_message]
      · -- no later message has the key, so all of them are as new as before
        have hunseen : Effort.unseen (sync.channel.seen engine) rest = Effort.unseen
            (sync.channel.seen (engine.flown (sync.channel.messageKey key) failure?)) rest :=
          Effort.unseen_congr fun other hmem =>
            (seen_flown (ne_of_mem_of_not_mem hmem hother) hseen failure?).symm
        have hrest := ih (inFlight_flown hidle (sync.channel.messageKey key) failure?)
          ((Attendance.mk .sender left key engine.flights.length).settled (.ofFailure? failure?))
          hkeys calls
        rw [Syncing.result_settled _ _ attempts key value] at hrest
        rw [hunseen]
        exact hrest

end Engine

/-- A sync alone implements its plan, whatever the script of its calls: in an engine with nothing in
flight, for a tenant whose client can be had, and with delays that can be computed. The keys of a
plan are distinct, as they are those of a map. -/
theorem Solo.implements_start {world : World} {engine : Engine} {tenantId : String}
    {conversation : Json} {plan : ExecutionPlan} (hresolves : world.Resolves engine tenantId)
    (hidle : engine.inFlight = []) (hcomputes : world.setup.retry.Computes)
    (hkeys : (plan.persist.map Prod.fst).Nodup) :
    Implements world ⟨world.client engine tenantId, tenantId, conversation⟩ .nothing engine
      (Solo.start world engine (.sync tenantId conversation plan))
      (plan.efforts fun key => engine.isProcessed tenantId conversation key) := by
  obtain ⟨backoff, hfirst⟩ := hcomputes.first
  obtain ⟨pooled, hreaches, hinFlight, hprocessed⟩ :=
    @Solo.start_reaches world engine (.sync tenantId conversation plan) hresolves
  let client := world.client engine tenantId
  let sync : Syncing :=
    ⟨tenantId, conversation, client, plan.messages, plan.changes, plan.emitEvents, .nothing⟩
  have hwalk := Engine.implements_proceedMessages hcomputes hfirst (hinFlight.trans hidle) sync
    (ExecutionPlan.nodup_messages hkeys) []
  have hseen : sync.channel.seen pooled =
      fun key => engine.isProcessed tenantId conversation key := by
    funext key
    simp only [Channel.seen, Engine.isProcessed, hprocessed]
    rfl
  rw [hseen, ← ExecutionPlan.efforts_eq] at hwalk
  exact .of_reaches hreaches rfl hprocessed hwalk

/-- A world whose calls fail by their numbers. -/
def World.failing (numbers : List Nat) : World where
  setup := ⟨.standard, fun _ => none⟩
  tenant := ⟨"acme", "", default, []⟩
  outcome n := if n ∈ numbers then some .unwritableBody else none

/-- A plan with every kind of effort, of which one was performed before. -/
def renewal : ExecutionPlan where
  persist := [("greeting", ⟨.message, .str "Hi!"⟩), ("thanks", ⟨.message, .str "Thanks!"⟩),
    ("tier", ⟨.label, .null⟩), ("offer", ⟨.message, .str "Renew now?"⟩)]
  labels := ⟨["renewed", "gold"], ["trial"]⟩
  contactAttributes := [("tier", .str "gold")]
  emitEvents := []

/-- The engine of a conversation that has been greeted. -/
def greeted : Engine := { Engine.initial with processed := ["acme:42:greeting"] }

/-- The third attempt of the first message succeeds; the second message and the labels to remove
fail in all of their attempts. -/
theorem Solo.implements_start_renewal :
    let world := World.failing [1, 2, 4, 5, 6, 8, 9, 10]
    Implements world ⟨⟨1, "acme", default⟩, "acme", .ofInt 42⟩ .nothing greeted
      (Solo.start world greeted (.sync "acme" (.ofInt 42) renewal))
      [.message "thanks" (.str "Thanks!"), .message "offer" (.str "Renew now?"),
        .addLabels ["renewed", "gold"], .removeLabels ["trial"],
        .writeAttributes [("tier", .str "gold")]] :=
  @Solo.implements_start (.failing [1, 2, 4, 5, 6, 8, 9, 10]) greeted "acme" (.ofInt 42) renewal
    (.inr rfl) rfl RetryOptions.computes_standard (by decide)

example :
    let world := World.failing [1, 2, 4, 5, 6, 8, 9, 10]
    let start := Solo.start world greeted (.sync "acme" (.ofInt 42) renewal)
    ((Solo.step world)^[18] start).load.tasks = [.reached (.finished (.ok (.synced ⟨1, 2, 1,
      ["Failed to send message 'offer': " ++ Failure.unwritableBody.message,
        "Failed to remove labels: " ++ Failure.unwritableBody.message]⟩)))] := rfl

end Automation
