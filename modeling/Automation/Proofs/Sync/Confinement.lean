import Automation.Proofs.Sync.Clients

/-!
# Tasks that keep to their own messages

A task touches the tables of messages at the keys of its own messages and nowhere else. When no
other task has one of these keys in flight, it waits for nobody, and what a turn does to the record
of sent messages depends on nothing but the task and the answer that it gets.

## Main definitions

* `Job.messageKeys`, `EngineTask.keys` — the keys of the messages of a job, and of those that are
  left to a task.
* `Progress.hold?` — the key of the message that a task has in flight.
* `EngineTask.drops?` — the key of the message whose send fails for good with an answer.
* `Engine.Minds` — a task has its messages for itself.
* `Engine.Confined` — what a turn does to the tables of messages.

## Main statements

* `Engine.confined_start`, `Engine.confined_resume` — the turns of a task that has its messages for
  itself are confined to them.
-/

namespace Automation

/-- The keys of the messages that a sync has left. -/
def Syncing.keys (sync : Syncing) : List String :=
  sync.messages.map fun message => sync.messageKey message.1

/-- The keys of the messages of a job. -/
def Job.messageKeys : Job → List String
  | .sync tenantId conversation plan =>
    plan.messages.map fun message => messageKey tenantId conversation message.1
  | .actions .. | .client _ => []

namespace EngineTask

/-- The keys of the messages that a task has under way or left. -/
def keys : EngineTask → List String
  | .resolving job | .closingSurplus job _ => job.messageKeys
  | .sending sync key .. | .awaiting sync key _ => sync.messageKey key :: sync.keys
  | .changing .. | .acting .. | .handling .. | .closing .. => []

/-- The key of the message whose send fails for good with an answer. -/
def drops? (options : RetryOptions) (answer : Answer) : EngineTask → Option String
  | .sending sync key _ _ retrying =>
    match (retrying.step options answer).1 with
    | .ended (some _) => some (sync.messageKey key)
    | .ended none | .attempt _ | .pause .. => none
  | .resolving _ | .closingSurplus .. | .awaiting .. | .changing .. | .acting .. | .handling ..
  | .closing .. => none

end EngineTask

namespace Progress

/-- The keys of the messages that a task has under way or left after its turn. -/
def keys : Progress → List String
  | .waiting task _ => task.keys
  | .finished _ => []

/-- The key of the message that a task attends in flight. -/
def hold? (progress : Progress) : Option String := progress.attends?.map Attendance.messageKey

theorem mem_keys_of_hold? {progress : Progress} {key : String} (h : progress.hold? = some key) :
    key ∈ progress.keys := by
  cases progress with
  | finished result => cases h
  | waiting task request =>
    cases task with
    | sending _ _ _ _ _ | awaiting _ _ _ =>
      cases h
      exact List.mem_cons_self
    | resolving _ | closingSurplus _ _ | changing _ _ _ | acting _ _ _ _ | handling _ _ _
    | closing _ _ => cases h

end Progress

namespace Engine

variable {options : RetryOptions} {setup : EngineSetup} {engine other : Engine}
  {keys : List String}

/-- A turn comes to no messages but those of the keys given, and leaves the handlers alone. -/
structure Within (keys : List String) (engine : Engine) (turn : Turn) : Prop where
  handlers : turn.engine.handlers = engine.handlers
  keys : turn.progress.keys ⊆ keys

namespace Within

variable {more : List String} {turn : Turn}

theorem after (h : engine.Within keys turn) (entries : List LogEntry) :
    engine.Within keys (turn.after entries) := ⟨h.handlers, h.keys⟩

theorem mono (h : engine.Within keys turn) (hsub : keys ⊆ more) : engine.Within more turn :=
  ⟨h.handlers, List.Subset.trans h.keys hsub⟩

/-- What leaves the handlers alone may come in front of a turn. -/
theorem of_eq (h : other.Within keys turn) (hhandlers : other.handlers = engine.handlers) :
    engine.Within keys turn := ⟨h.handlers.trans hhandlers, h.keys⟩

end Within

/-! ## The messages that are left -/

theorem within_proceedChanges (sync : Syncing) (changes : List Change) :
    engine.Within keys (engine.proceedChanges options sync changes) := by
  induction changes generalizing sync with
  | nil => exact ⟨rfl, List.nil_subset _⟩
  | cons change rest ih =>
    rw [proceedChanges]
    split
    · exact ⟨rfl, List.nil_subset _⟩
    · exact (ih _).after _

theorem within_proceedMessages (sync : Syncing) (messages : List (String × Json)) :
    engine.Within (messages.map fun message => sync.messageKey message.1)
      (engine.proceedMessages options sync messages) := by
  induction messages generalizing engine sync with
  | nil => exact within_proceedChanges sync sync.changes
  | cons message rest ih =>
    obtain ⟨key, value⟩ := message
    have hrest := List.subset_cons_self (sync.messageKey key)
      (rest.map fun message => sync.messageKey message.1)
    rw [proceedMessages]
    split
    · exact ⟨rfl, List.Subset.refl _⟩
    · split
      · exact ((ih sync).mono hrest).after _
      · cases Backoff.first options with
        | ok backoff => exact ⟨rfl, List.Subset.refl _⟩
        | error fault =>
          -- a send that never takes off changes the tables of messages only
          dsimp only [reserve, concludeSend]
          refine Within.after (.mono (.of_eq (ih _) ?_) ?_) _
          · rfl
          · exact hrest

theorem within_proceedActions (acting : Acting) (actions : List Action) :
    engine.Within keys (engine.proceedActions options acting actions) := by
  induction actions with
  | nil => exact ⟨rfl, List.nil_subset _⟩
  | cons action rest ih =>
    rw [proceedActions]
    split
    · exact ih.after _
    · refine Within.after ?_ _
      split
      · exact ⟨rfl, List.nil_subset _⟩
      · split
        · exact ih.after _
        · exact ih.after _
        · split
          · exact ⟨rfl, List.nil_subset _⟩
          · exact ih.after _

theorem within_proceed (client : Client) (job : Job) :
    engine.Within job.messageKeys (engine.proceed options client job) := by
  cases job with
  | sync tenantId conversation plan =>
    exact within_proceedMessages ⟨tenantId, conversation, client, plan.messages, plan.changes,
      plan.emitEvents, .nothing⟩ plan.messages
  | actions tenantId conversation actions => exact within_proceedActions _ _
  | client tenantId => exact ⟨rfl, List.nil_subset _⟩

theorem within_start (job : Job) :
    engine.Within job.messageKeys (engine.start setup job) := by
  cases hpool : engine.pool.lookup job.tenantId with
  | some client =>
    obtain ⟨entries, hturn⟩ := @start_of_pooled setup _ _ _ hpool
    rw [hturn]
    exact (within_proceed client job).after entries
  | none =>
    obtain ⟨entries, hturn⟩ := @start_of_absent setup _ _ hpool
    rw [hturn]
    exact ⟨rfl, List.Subset.refl _⟩

theorem within_engage (job : Job) (tenant : Tenant) :
    engine.Within job.messageKeys (engine.engage setup job tenant) := by
  cases hobstacle : setup.obstacle tenant with
  | some failure =>
    rw [engage_of_obstacle hobstacle]
    exact ⟨rfl, List.nil_subset _⟩
  | none =>
    cases hpool : engine.pool.lookup job.tenantId with
    | some pooled =>
      rw [engage_of_pooled hobstacle hpool]
      exact ⟨rfl, List.Subset.refl _⟩
    | none =>
      obtain ⟨entries, hturn⟩ := engage_of_absent hobstacle hpool
      rw [hturn]
      refine Within.after (.of_eq (within_proceed _ job) ?_) entries
      rfl

theorem within_continueCall {task : Retrying → EngineTask} {request : Request} {step : CallStep}
    {onEnd : Option Failure → Turn} (htask : ∀ retrying, (task retrying).keys ⊆ keys)
    (hend : ∀ failure?, engine.Within keys (onEnd failure?)) :
    engine.Within keys (engine.continueCall task request step onEnd) := by
  cases step with
  | attempt backoff => exact ⟨rfl, htask _⟩
  | pause seconds backoff => exact ⟨rfl, htask _⟩
  | ended failure? => exact hend failure?

/-- A task comes to no messages but those that it had left. -/
theorem within_resume (task : EngineTask) (answer : Answer) :
    engine.Within task.keys (engine.resume setup task answer) := by
  cases task with
  | resolving job =>
    cases answer with
    | found tenant => exact within_engage job tenant
    | done => exact ⟨rfl, List.Subset.refl _⟩
    | failed failure => exact ⟨rfl, List.nil_subset _⟩
  | closingSurplus job client => exact within_proceed client job
  | sending sync key value flight retrying =>
    have hrest := List.subset_cons_self (sync.messageKey key) sync.keys
    refine Within.after (within_continueCall (fun _ => ?_) fun failure? => ?_) _
    · exact List.Subset.refl _
    · refine Within.after (.mono (.of_eq (within_proceedMessages _ _) ?_) ?_) _
      · cases failure? <;> rfl
      · cases failure? <;> exact hrest
  | awaiting sync key flight =>
    have hrest := List.subset_cons_self (sync.messageKey key) sync.keys
    rw [resume]
    split
    · exact ⟨rfl, List.Subset.refl _⟩
    · exact (within_proceedMessages _ _).mono hrest
    · exact (within_proceedMessages _ _).mono hrest
  | changing sync change retrying =>
    refine Within.after (within_continueCall (fun _ => ?_) fun failure? => ?_) _
    · exact List.nil_subset _
    · exact (within_proceedChanges _ _).after _
  | acting acting action outbound retrying =>
    refine Within.after (within_continueCall (fun _ => ?_) fun failure? => ?_) _
    · exact List.nil_subset _
    · exact (within_proceedActions _ _).after _
  | handling acting action kind => exact (within_proceedActions _ _).after _
  | closing current rest =>
    cases rest with
    | nil => exact ⟨rfl, List.nil_subset _⟩
    | cons next rest => exact ⟨rfl, List.nil_subset _⟩

/-! ## The tables of messages -/

/-- Nothing changes in the tables of messages, but that one message may be put in flight. -/
structure Reserves (engine other : Engine) (key? : Option String) : Prop where
  processed : ∀ key, key ∈ other.processed ↔ key ∈ engine.processed ∨ key? = some key
  inFlight : ∀ key, key? ≠ some key → other.inFlight.lookup key = engine.inFlight.lookup key

/-- A turn whose task waits for none of its messages leaves the tables as they are, or puts one
message in flight. -/
theorem Enters.reserves {seat : Option Attendance} (h : engine.Enters options other seat)
    (hfree : ∀ a, seat = some a → engine.inFlight.lookup a.messageKey = none) :
    engine.Reserves other (seat.map Attendance.messageKey) ∧
      ∀ a, seat = some a → a.part = .sender := by
  cases h with
  | away kept => exact ⟨⟨by simp [kept.processed], by simp [kept.inFlight]⟩, by simp⟩
  | joins a part kept listed =>
    rw [hfree a rfl] at listed
    cases listed
  | sends a before backoff part kept unlisted fresh first flight reserves =>
    refine ⟨⟨fun key => ?_, fun key hkey => ?_⟩, ?_⟩
    · rw [reserves, reserve, List.mem_insert_iff, kept.processed, Option.map_some,
        Option.some_inj, or_comm, eq_comm]
    · have hne : key ≠ a.messageKey := fun h => hkey (congrArg some h.symm)
      rw [reserves, reserve, List.lookup_cons, beq_false_of_ne hne, kept.inFlight]
    · rintro b hb
      exact Option.some.inj hb ▸ part

theorem mem_processed_land {engine : Engine} {messageKey key : String} {flight : Nat}
    {landing : Landing} : key ∈ (engine.land messageKey flight landing).processed ↔
      key ∈ engine.processed ∧ (landing = .delivered ∨ key ≠ messageKey) := by
  cases landing with
  | delivered => simp [land]
  | failed message => simp [land]

theorem lookup_land {engine : Engine} {messageKey key : String} (flight : Nat) (landing : Landing)
    (h : key ≠ messageKey) : (engine.land messageKey flight landing).inFlight.lookup key =
      engine.inFlight.lookup key := by
  simp only [land]
  induction engine.inFlight with
  | nil => rfl
  | cons entry rest ih =>
    by_cases hentry : entry.1 = messageKey
    · have hne : (key == entry.1) = false := beq_false_of_ne (hentry ▸ h)
      rw [List.filter_cons_of_neg (by simpa using hentry), List.lookup_cons, hne, ih]
    · rw [List.filter_cons_of_pos (by simpa using hentry), List.lookup_cons, List.lookup_cons, ih]

/-- None of the messages of the keys given is in flight. -/
def Free (keys : List String) (engine : Engine) : Prop :=
  ∀ key ∈ keys, engine.inFlight.lookup key = none

theorem lookup_land_self (engine : Engine) (messageKey : String) (flight : Nat)
    (landing : Landing) : (engine.land messageKey flight landing).inFlight.lookup messageKey =
      none := by
  refine List.lookup_eq_none_iff.mpr fun entry hentry => ?_
  have hne : entry.1 ≠ messageKey := of_decide_eq_true (List.mem_filter.mp hentry).2
  simpa using hne.symm

/-- A task has its messages, which are those of the keys given, for itself: it sends one of them or
waits for none, and no other of them is in flight. -/
structure Minds (keys : List String) (engine : Engine) (progress : Progress) : Prop where
  left : progress.keys ⊆ keys
  sends : ∀ a, progress.attends? = some a → a.part = .sender
  reserved : ∀ key, progress.hold? = some key → key ∈ engine.processed
  free : ∀ key ∈ keys, progress.hold? ≠ some key → engine.inFlight.lookup key = none

/-- So does a task with no message in flight when none of them is. -/
theorem Minds.of_free {progress : Progress} (hleft : progress.keys ⊆ keys)
    (hattends : progress.attends? = none) (hfree : engine.Free keys) :
    engine.Minds keys progress := by
  refine ⟨hleft, fun a ha => ?_, fun key hheld => ?_, fun key hkey _ => hfree key hkey⟩
  · rw [hattends] at ha
    cases ha
  · rw [Progress.hold?, hattends] at hheld
    cases hheld

/-- What a turn does to the tables of messages when its task has the messages of the keys given for
itself: it drops the message whose send has failed, if there is one, and may put another in flight.
Nothing that belongs to others changes. -/
structure Confined (keys : List String) (dropped? : Option String) (engine : Engine)
    (turn : Turn) : Prop where
  minds : turn.engine.Minds keys turn.progress
  processed : ∀ key, key ∈ turn.engine.processed ↔
    key ∈ engine.processed ∧ dropped? ≠ some key ∨ turn.progress.hold? = some key
  inFlight : ∀ key ∉ keys, turn.engine.inFlight.lookup key = engine.inFlight.lookup key
  dropped : ∀ key, dropped? = some key → key ∈ keys
  handlers : turn.engine.handlers = engine.handlers

/-- Nothing changes but what is noted about the messages of the keys given. -/
structure Spares (keys : List String) (engine other : Engine) : Prop where
  processed : ∀ key ∉ keys, key ∈ other.processed ↔ key ∈ engine.processed
  inFlight : ∀ key ∉ keys, other.inFlight.lookup key = engine.inFlight.lookup key
  handlers : other.handlers = engine.handlers

theorem Spares.refl (keys : List String) (engine : Engine) : engine.Spares keys engine :=
  ⟨fun _ _ => Iff.rfl, fun _ _ => rfl, rfl⟩

theorem Confined.spares {turn : Turn} {dropped? : Option String}
    (h : engine.Confined keys dropped? turn) : engine.Spares keys turn.engine := by
  refine ⟨fun key hkey => ?_, h.inFlight, h.handlers⟩
  have hheld : turn.progress.hold? ≠ some key := fun hheld =>
    hkey (h.minds.left (Progress.mem_keys_of_hold? hheld))
  have hdropped : dropped? ≠ some key := fun hdropped => hkey (h.dropped key hdropped)
  simp [h.processed, hheld, hdropped]

section

variable {others : List String}

theorem Free.of_spares (h : engine.Free keys) (hspares : engine.Spares others other)
    (hdisjoint : keys.Disjoint others) : other.Free keys := fun key hkey => by
  rw [hspares.inFlight key (hdisjoint hkey), h key hkey]

theorem Minds.of_spares {progress : Progress} (h : engine.Minds keys progress)
    (hspares : engine.Spares others other) (hdisjoint : keys.Disjoint others) :
    other.Minds keys progress := by
  refine ⟨h.left, h.sends, fun key hheld => ?_, fun key hkey hheld => ?_⟩
  · have hkey := h.left (Progress.mem_keys_of_hold? hheld)
    exact (hspares.processed key (hdisjoint hkey)).mpr (h.reserved key hheld)
  · rw [hspares.inFlight key (hdisjoint hkey), h.free key hkey hheld]

end

/-- The turn of a task with no message in flight and none that is. -/
theorem confined_of_opens {turn : Turn} (hwithin : engine.Within keys turn)
    (hopens : engine.Opens options turn) (hfree : engine.Free keys) :
    engine.Confined keys none turn := by
  have hattended : ∀ a, turn.progress.attends? = some a → a.messageKey ∈ keys := by
    intro a ha
    refine hwithin.keys (Progress.mem_keys_of_hold? ?_)
    rw [Progress.hold?, ha, Option.map_some]
  obtain ⟨⟨hprocessed, hinFlight⟩, hsends⟩ :=
    hopens.reserves fun a ha => hfree _ (hattended a ha)
  refine ⟨⟨hwithin.keys, hsends, fun key hkey => ?_, fun key hkey hheld => ?_⟩, fun key => ?_,
    fun key hkey => ?_, fun key hkey => ?_, hwithin.handlers⟩
  · exact (hprocessed key).mpr (.inr hkey)
  · rw [hinFlight key hheld, hfree key hkey]
  · rw [hprocessed key]
    simp [Progress.hold?]
  · refine hinFlight key fun hheld => ?_
    exact hkey (hwithin.keys (Progress.mem_keys_of_hold? hheld))
  · cases hkey

/-- The first turn of a job. -/
theorem confined_start {job : Job} (hjob : job.messageKeys ⊆ keys)
    (hfree : engine.Free keys) : engine.Confined keys none (engine.start setup job) :=
  confined_of_opens ((within_start job).mono hjob) (opens_start job) hfree

theorem drops?_of_attends? {task : EngineTask} {answer : Answer} (h : task.attends? = none) :
    task.drops? options answer = none := by
  cases task with
  | sending _ _ _ _ _ | awaiting _ _ _ => cases h
  | resolving _ | closingSurplus _ _ | changing _ _ _ | acting _ _ _ _ | handling _ _ _
  | closing _ _ => rfl

/-- A message is dropped exactly when a send of its own has failed for good. -/
theorem drops?_eq_some_iff {task : EngineTask} {a : Attendance} {answer : Answer} {key : String}
    (h : task.attends? = some a) (hsender : a.part = .sender) :
    task.drops? options answer = some key ↔ key = a.messageKey ∧
      ∃ message, engine.verdict? options task answer = some (.failed message) := by
  obtain ⟨-, value, retrying, rfl⟩ | ⟨hwaiter, -⟩ := EngineTask.eq_of_attends? h
  · rw [EngineTask.drops?, verdict?]
    rcases (retrying.step options answer).1 with _ | _ | (_ | failure)
    · simp
    · simp
    · simp [Landing.ofFailure?]
    · simp [Landing.ofFailure?, Attendance.messageKey, eq_comm]
  · rw [hsender] at hwaiter
    cases hwaiter

section

variable {task : EngineTask} {request : Request} {a : Attendance} {answer : Answer}

/-- When the only message in flight lands, there is none left. -/
theorem Minds.free_land (h : engine.Minds keys (.waiting task request))
    (hattends : task.attends? = some a) (flight : Nat) (landing : Landing) :
    (engine.land a.messageKey flight landing).Free keys := by
  intro key hkey
  by_cases hself : key = a.messageKey
  · rw [hself, lookup_land_self]
  · rw [lookup_land _ _ hself]
    refine h.free key hkey fun hheld => hself ?_
    rw [Progress.hold?, Progress.attends?, hattends] at hheld
    exact (Option.some.inj hheld).symm

/-- A turn in which the retried call for a message goes on. -/
theorem confined_of_no_verdict (h : engine.Minds keys (.waiting task request))
    (hattends : task.attends? = some a)
    (hv : engine.verdict? setup.retry task answer = none) :
    engine.Confined keys (task.drops? setup.retry answer) (engine.resume setup task answer) := by
  have hsender := h.sends a hattends
  obtain ⟨hengine, hstays⟩ := resume_of_no_verdict hattends hv
  have hholds : (engine.resume setup task answer).progress.hold? =
      (Progress.waiting task request).hold? := by
    rw [Progress.hold?, Progress.hold?, hstays, Progress.attends?, hattends]
  have hdropped : task.drops? setup.retry answer = none :=
    Option.eq_none_iff_forall_ne_some.mpr fun key hkey => by
      obtain ⟨-, message, hmessage⟩ := (drops?_eq_some_iff hattends hsender).mp hkey
      rw [hv] at hmessage
      cases hmessage
  have hwithin : engine.Within keys (engine.resume setup task answer) :=
    (within_resume task answer).mono h.left
  rw [hdropped]
  refine ⟨⟨hwithin.keys, fun b hb => ?_, fun key hkey => ?_, fun key hkey hfree => ?_⟩,
    fun key => ?_, fun key _ => ?_, fun key hkey => ?_, hwithin.handlers⟩
  · obtain rfl := Option.some.inj (hstays.symm.trans hb)
    exact hsender
  · rw [hengine]
    exact h.reserved key (hholds ▸ hkey)
  · rw [hengine]
    exact h.free key hkey (hholds ▸ hfree)
  · have hreserved := h.reserved key
    rw [hengine, hholds]
    simpa using hreserved
  · rw [hengine]
  · cases hkey

/-- A turn in which a message lands; from there it goes on as any other. -/
theorem confined_of_verdict (h : engine.Minds keys (.waiting task request))
    (hattends : task.attends? = some a) {landing : Landing}
    (hv : engine.verdict? setup.retry task answer = some landing) :
    engine.Confined keys (task.drops? setup.retry answer) (engine.resume setup task answer) := by
  have hsender := h.sends a hattends
  have hmem : a.messageKey ∈ keys := by
    refine h.left (Progress.mem_keys_of_hold? ?_)
    rw [Progress.hold?, Progress.attends?, hattends, Option.map_some]
  have hbase := @conclude_of_sender engine a landing hsender
  have hopens := opens_resume_of_verdict hattends hv
  rw [hbase] at hopens
  have hfree := h.free_land hattends a.flight landing
  have hwithin : engine.Within keys (engine.resume setup task answer) :=
    (within_resume task answer).mono h.left
  have hlanded : (engine.land a.messageKey a.flight landing).Within keys
      (engine.resume setup task answer) := hwithin.of_eq rfl
  have hturn := confined_of_opens hlanded hopens hfree
  refine ⟨hturn.minds, fun key => ?_, fun key hkey => ?_, fun key hkey => ?_, hwithin.handlers⟩
  · have hkept : task.drops? setup.retry answer ≠ some key ↔
        landing = .delivered ∨ key ≠ a.messageKey := by
      rw [ne_eq, drops?_eq_some_iff hattends hsender, hv]
      cases landing <;> simp
    rw [hturn.processed key, mem_processed_land, hkept]
    simp
  · have hother : key ≠ a.messageKey := fun hself => hkey (hself ▸ hmem)
    rw [hturn.inFlight key hkey, lookup_land _ _ hother]
  · obtain ⟨rfl, -⟩ := (@drops?_eq_some_iff _ engine _ _ _ _ hattends hsender).mp hkey
    exact hmem

/-- The turn after a wait. -/
theorem confined_resume (h : engine.Minds keys (.waiting task request)) (answer : Answer) :
    engine.Confined keys (task.drops? setup.retry answer) (engine.resume setup task answer) := by
  cases hattends : task.attends? with
  | none =>
    have hidle : (Progress.waiting task request).hold? = none := by
      rw [Progress.hold?, Progress.attends?, hattends, Option.map_none]
    rw [drops?_of_attends? hattends]
    refine confined_of_opens ((within_resume task answer).mono h.left)
      (opens_resume hattends answer) fun key hkey => h.free key hkey ?_
    rw [hidle]
    exact (Option.some_ne_none key).symm
  | some a =>
    cases hv : engine.verdict? setup.retry task answer with
    | none => exact confined_of_no_verdict h hattends hv
    | some landing => exact confined_of_verdict h hattends hv

end

end Engine

end Automation
