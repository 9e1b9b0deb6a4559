import Automation.Proofs.Sync.Confinement
import Automation.Proofs.Sync.Solo

/-!
# What a task does, but for numbers

Clients and flights are numbered in the order in which they come. But for these numbers, what a task
with its client does depends on its own state and on the answers that it gets, and on nothing of the
engine but the handlers and the record of its own messages.

## Main definitions

* `Request.plain`, `EngineTask.plain`, `Progress.plain` — what a task asks for and where it stands,
  without the numbers of clients and flights.
* `Engine.Agrees` — two engines have the same record of some messages.

## Main statements

* `Engine.plain_proceed`, `Engine.plain_resume` — in engines that agree on the messages of a task,
  its turns are the same but for numbers.
-/

namespace Automation

/-- The client without its number. -/
def Client.plain (client : Client) : Client := { client with number := 0 }

/-- The request without the numbers of clients and flights. -/
def Request.plain : Request → Request
  | .close client => .close client.plain
  | .call client conversation made => .call client.plain conversation made
  | .handle client conversation kind action => .handle client.plain conversation kind action
  | .landing _ => .landing 0
  | .lookup tenantId => .lookup tenantId
  | .deliver url payload => .deliver url payload
  | .pause seconds => .pause seconds
  | .storage => .storage
  | .applications ids => .applications ids

/-- The sync without the number of its client. -/
def Syncing.plain (sync : Syncing) : Syncing := { sync with client := sync.client.plain }

/-- The list of actions without the number of its client. -/
def Acting.plain (acting : Acting) : Acting := { acting with client := acting.client.plain }

/-- The task without the numbers of clients and flights. -/
def EngineTask.plain : EngineTask → EngineTask
  | .resolving job => .resolving job
  | .closingSurplus job client => .closingSurplus job client.plain
  | .sending sync key value _ retrying => .sending sync.plain key value 0 retrying
  | .awaiting sync key _ => .awaiting sync.plain key 0
  | .changing sync change retrying => .changing sync.plain change retrying
  | .acting under action outbound retrying => .acting under.plain action outbound retrying
  | .handling under action kind => .handling under.plain action kind
  | .closing current rest => .closing current.plain (rest.map Client.plain)

/-- Where a task stands, without the numbers of clients and flights. -/
def Progress.plain : Progress → Progress
  | .waiting task request => .waiting task.plain request.plain
  | .finished result => .finished result

theorem Request.isCall_plain (request : Request) : request.plain.isCall = request.isCall := by
  cases request <;> rfl

theorem World.answer_plain (world : World) (made : Nat) (request : Request) :
    world.answer made request.plain = world.answer made request := by
  cases request <;> rfl

namespace EngineTask

theorem keys_plain (task : EngineTask) : task.plain.keys = task.keys := by
  cases task <;> rfl

theorem drops?_plain (options : RetryOptions) (answer : Answer) (task : EngineTask) :
    task.plain.drops? options answer = task.drops? options answer := by
  cases task <;> rfl

theorem midway_plain (task : EngineTask) : task.plain.midway = task.midway := by
  cases task <;> rfl

end EngineTask

namespace Progress

theorem keys_plain (progress : Progress) : progress.plain.keys = progress.keys := by
  cases progress with
  | waiting task request => exact task.keys_plain
  | finished result => rfl

theorem part_plain (progress : Progress) :
    progress.plain.attends?.map Attendance.part = progress.attends?.map Attendance.part := by
  cases progress with
  | waiting task request => cases task <;> rfl
  | finished result => rfl

theorem hold?_plain (progress : Progress) : progress.plain.hold? = progress.hold? := by
  cases progress with
  | waiting task request => cases task <;> rfl
  | finished result => rfl

end Progress

namespace Engine

variable {options : RetryOptions} {setup : EngineSetup} {engine other : Engine}
  {keys : List String}

/-- Two engines have the same record of the messages of the keys given. -/
def Agrees (keys : List String) (engine other : Engine) : Prop :=
  ∀ key ∈ keys, key ∈ engine.processed ↔ key ∈ other.processed

theorem Agrees.land (h : engine.Agrees keys other) (messageKey : String) (flight flight' : Nat)
    (landing : Landing) :
    (engine.land messageKey flight landing).Agrees keys (other.land messageKey flight' landing) := by
  intro key hkey
  rw [mem_processed_land, mem_processed_land, h key hkey]

theorem Agrees.of_keeps {before before' : Engine} (h : before.Agrees keys before')
    (hkeeps : before.Keeps engine) (hkeeps' : before'.Keeps other) : engine.Agrees keys other := by
  intro key hkey
  rw [hkeeps.processed, hkeeps'.processed, h key hkey]

theorem Agrees.of_spares {before : Engine} {others : List String} (h : before.Agrees keys other)
    (hspares : before.Spares others engine) (hdisjoint : keys.Disjoint others) :
    engine.Agrees keys other := by
  intro key hkey
  rw [hspares.processed key (hdisjoint hkey), h key hkey]

theorem Free.of_keeps (h : engine.Free keys) (hkeeps : engine.Keeps other) : other.Free keys := by
  intro key hkey
  rw [hkeeps.inFlight, h key hkey]

/-! ## Turns -/

theorem plain_proceedChanges (sync : Syncing) (changes : List Change) :
    (engine.proceedChanges options sync changes).progress.plain =
      (other.proceedChanges options sync.plain changes).progress.plain := by
  induction changes generalizing sync with
  | nil => rfl
  | cons change rest ih =>
    simp only [proceedChanges]
    cases Backoff.first options with
    | ok backoff => rfl
    | error fault => exact ih _

theorem plain_proceedMessages (sync : Syncing) (messages : List (String × Json))
    (hkeys : messages.map (fun message => sync.messageKey message.1) ⊆ keys)
    (hfree : engine.Free keys) (hfree' : other.Free keys) (hagrees : engine.Agrees keys other) :
    (engine.proceedMessages options sync messages).progress.plain =
      (other.proceedMessages options sync.plain messages).progress.plain := by
  induction messages generalizing engine other sync with
  | nil => exact plain_proceedChanges sync sync.changes
  | cons message rest ih =>
    obtain ⟨key, value⟩ := message
    have hmem : sync.messageKey key ∈ keys := hkeys List.mem_cons_self
    have hrest := List.Subset.trans (List.subset_cons_self _ _) hkeys
    have hunlisted' : other.inFlight.lookup (sync.plain.messageKey key) = none := hfree' _ hmem
    rw [proceedMessages, proceedMessages, hfree _ hmem, hunlisted']
    by_cases hprocessed : sync.messageKey key ∈ engine.processed
    · have hprocessed' : sync.plain.messageKey key ∈ other.processed :=
        (hagrees _ hmem).mp hprocessed
      simp only [List.contains_iff_mem.mpr hprocessed, List.contains_iff_mem.mpr hprocessed',
        if_true]
      exact ih sync hrest hfree hfree' hagrees
    · have hprocessed' : sync.plain.messageKey key ∉ other.processed :=
        fun h => hprocessed ((hagrees _ hmem).mpr h)
      simp only [List.contains_iff_mem, hprocessed, hprocessed', if_false]
      cases Backoff.first options with
      | ok backoff => rfl
      | error fault =>
        have hkeeps := Keeps.of_lost (hfree _ hmem) hprocessed (Failure.delay fault).message
        have hkeeps' := Keeps.of_lost hunlisted' hprocessed' (Failure.delay fault).message
        exact ih _ hrest (hfree.of_keeps hkeeps) (hfree'.of_keeps hkeeps')
          (hagrees.of_keeps hkeeps hkeeps')

theorem plain_proceedActions (acting : Acting) (actions : List Action)
    (hhandlers : engine.handlers = other.handlers) :
    (engine.proceedActions options acting actions).progress.plain =
      (other.proceedActions options acting.plain actions).progress.plain := by
  induction actions with
  | nil => rfl
  | cons action rest ih =>
    have hconversation : acting.plain.conversation = acting.conversation := rfl
    simp only [proceedActions, hhandlers, hconversation]
    cases action.kind? with
    | none => exact ih
    | some kind =>
      simp only [Turn.after]
      split
      · rfl
      · cases action.intent acting.conversation kind with
        | nothing remark => exact ih
        | impossible failure => exact ih
        | call outbound =>
          cases Backoff.first options with
          | ok backoff => cases outbound <;> rfl
          | error fault => exact ih

/-- With a client of the same account, a job for which calls are made takes the same turn. -/
theorem plain_proceed {client client' : Client} (hclient : client.plain = client'.plain) {job : Job}
    (hjob : ∀ tenantId, job ≠ .client tenantId) (hkeys : job.messageKeys ⊆ keys)
    (hfree : engine.Free keys) (hfree' : other.Free keys) (hagrees : engine.Agrees keys other)
    (hhandlers : engine.handlers = other.handlers) :
    (engine.proceed options client job).progress.plain =
      (other.proceed options client' job).progress.plain := by
  cases job with
  | sync tenantId conversation plan =>
    let sync (client : Client) : Syncing := ⟨tenantId, conversation, client, plan.messages,
      plan.changes, plan.emitEvents, .nothing⟩
    have hsync : (sync client).plain = (sync client').plain := by
      simp only [sync, Syncing.plain, hclient]
    calc (engine.proceedMessages options (sync client) plan.messages).progress.plain
      _ = (other.proceedMessages options (sync client).plain plan.messages).progress.plain :=
        plain_proceedMessages (sync client) plan.messages hkeys hfree hfree' hagrees
      _ = (other.proceedMessages options (sync client').plain plan.messages).progress.plain := by
        rw [hsync]
      _ = (other.proceedMessages options (sync client') plan.messages).progress.plain :=
        (plain_proceedMessages (sync client') plan.messages hkeys hfree' hfree'
          fun _ _ => Iff.rfl).symm
  | actions tenantId conversation actions =>
    let acting (client : Client) : Acting := ⟨tenantId, conversation, client, actions⟩
    have hacting : (acting client).plain = (acting client').plain := by
      simp only [acting, Acting.plain, hclient]
    calc (engine.proceedActions options (acting client) actions).progress.plain
      _ = (other.proceedActions options (acting client).plain actions).progress.plain :=
        plain_proceedActions _ _ hhandlers
      _ = (other.proceedActions options (acting client').plain actions).progress.plain := by
        rw [hacting]
      _ = (other.proceedActions options (acting client') actions).progress.plain :=
        (plain_proceedActions _ _ rfl).symm
  | client tenantId => exact absurd rfl (hjob tenantId)

theorem plain_continueCall {task task' : Retrying → EngineTask} {request request' : Request}
    {step : CallStep} {onEnd onEnd' : Option Failure → Turn}
    (htask : ∀ retrying, (task retrying).plain = (task' retrying).plain)
    (hrequest : request.plain = request'.plain)
    (hend : ∀ failure?, (onEnd failure?).progress.plain = (onEnd' failure?).progress.plain) :
    (engine.continueCall task request step onEnd).progress.plain =
      (other.continueCall task' request' step onEnd').progress.plain := by
  cases step with
  | attempt backoff => exact congrArg₂ Progress.waiting (htask _) hrequest
  | pause seconds backoff => exact congrArg₂ Progress.waiting (htask _) rfl
  | ended failure? => exact hend failure?

theorem Minds.of_plain_eq {progress progress' : Progress} (h : engine.Minds keys progress)
    (hplain : progress.plain = progress'.plain) : engine.Minds keys progress' := by
  have hkeys : progress'.keys = progress.keys := by
    rw [← progress'.keys_plain, ← hplain, progress.keys_plain]
  have hholds : progress'.hold? = progress.hold? := by
    rw [← progress'.hold?_plain, ← hplain, progress.hold?_plain]
  have hparts : progress'.attends?.map Attendance.part = progress.attends?.map Attendance.part := by
    rw [← progress'.part_plain, ← hplain, progress.part_plain]
  refine ⟨hkeys ▸ h.left, fun a ha => ?_, hholds ▸ h.reserved, hholds ▸ h.free⟩
  rw [ha, Option.map_some] at hparts
  obtain ⟨b, hb, hpart⟩ := Option.map_eq_some_iff.mp hparts.symm
  rw [← hpart, h.sends b hb]

/-- The turn of a task that has its client and its messages for itself. -/
theorem plain_resume_plain {task : EngineTask} {request : Request} (hmidway : task.midway = false)
    (h : engine.Minds keys (.waiting task request)) (h' : other.Minds keys (.waiting task request))
    (hagrees : engine.Agrees keys other) (hhandlers : engine.handlers = other.handlers)
    (answer : Answer) : (engine.resume setup task answer).progress.plain =
      (other.resume setup task.plain answer).progress.plain := by
  cases task with
  | resolving _ | closingSurplus _ _ | closing _ _ => cases hmidway
  | awaiting sync key flight => cases h.sends _ rfl
  | sending sync key value flight retrying =>
    have hattends : (EngineTask.sending sync key value flight retrying).attends? =
      some ⟨.sender, sync, key, flight⟩ := rfl
    have hleft : sync.keys ⊆ keys := List.Subset.trans (List.subset_cons_self _ _) h.left
    have hlanded (following : Syncing) (hfollowing : following.keys = sync.keys)
        (landing : Landing) :=
      @plain_proceedMessages setup.retry _ _ _ following following.messages
        (hfollowing ▸ hleft : following.keys ⊆ keys) (h.free_land hattends flight landing)
        (h'.free_land hattends 0 landing) (hagrees.land (sync.messageKey key) flight 0 landing)
    refine plain_continueCall (fun _ => rfl) rfl fun failure? => ?_
    cases failure? with
    | none => exact hlanded sync.countMessage rfl .delivered
    | some failure =>
      exact hlanded (sync.fail (Syncing.unsentLine key failure.message)) rfl
        (.failed failure.message)
  | changing sync change retrying =>
    refine plain_continueCall (fun _ => rfl) rfl fun failure? => ?_
    cases failure? with
    | none => exact plain_proceedChanges _ _
    | some failure => exact plain_proceedChanges _ _
  | acting acting action outbound retrying =>
    refine plain_continueCall (fun _ => rfl) ?_ fun failure? => plain_proceedActions _ _ hhandlers
    cases outbound <;> rfl
  | handling acting action kind => exact plain_proceedActions _ _ hhandlers

/-- Two tasks, each in its engine, have come to the same point with messages for themselves. -/
structure Alike (keys : List String) (engine other : Engine) (progress progress' : Progress) :
    Prop where
  plain : progress.plain = progress'.plain
  equipped : progress.Equipped
  minds : engine.Minds keys progress
  minds' : other.Minds keys progress'
  agrees : engine.Agrees keys other
  handlers : engine.handlers = other.handlers

/-- What is done about the messages of others makes no difference. -/
theorem Alike.of_spares {before : Engine} {progress progress' : Progress} {others : List String}
    (h : Alike keys before other progress progress') (hspares : before.Spares others engine)
    (hdisjoint : keys.Disjoint others) : Alike keys engine other progress progress' :=
  ⟨h.plain, h.equipped, h.minds.of_spares hspares hdisjoint, h.minds',
    h.agrees.of_spares hspares hdisjoint, hspares.handlers.trans h.handlers⟩

theorem Confined.agrees {dropped? : Option String} {turn turn' : Turn}
    (h : engine.Confined keys dropped? turn) (h' : other.Confined keys dropped? turn')
    (hplain : turn.progress.plain = turn'.progress.plain) (hagrees : engine.Agrees keys other) :
    turn.engine.Agrees keys turn'.engine := by
  intro key hkey
  rw [h.processed key, h'.processed key, hagrees key hkey, ← turn.progress.hold?_plain, hplain,
    turn'.progress.hold?_plain]

/-- With clients of the same account, a job goes on in two engines in the same way. -/
theorem alike_proceed {client client' : Client} (hclient : client.plain = client'.plain) {job : Job}
    (hjob : ∀ tenantId, job ≠ .client tenantId) (hkeys : job.messageKeys ⊆ keys)
    (hfree : engine.Free keys) (hfree' : other.Free keys) (hagrees : engine.Agrees keys other)
    (hhandlers : engine.handlers = other.handlers) :
    Alike keys (engine.proceed options client job).engine (other.proceed options client' job).engine
      (engine.proceed options client job).progress
      (other.proceed options client' job).progress := by
  have hplain := @plain_proceed options _ _ _ _ _ hclient _ hjob hkeys hfree hfree' hagrees
    hhandlers
  have hturn := confined_of_opens ((within_proceed client job).mono hkeys)
    (@opens_proceed options _ client job) hfree
  have hturn' := confined_of_opens ((within_proceed client' job).mono hkeys)
    (@opens_proceed options _ client' job) hfree'
  refine ⟨hplain, (carries_proceed client job).equipped, hturn.minds, hturn'.minds,
    hturn.agrees hturn' hplain hagrees, ?_⟩
  rw [hturn.handlers, hturn'.handlers, hhandlers]

/-- Tasks that have come to the same point come to the same point with the next answer. -/
theorem Alike.resume {task task' : EngineTask} {request request' : Request}
    (h : Alike keys engine other (.waiting task request) (.waiting task' request'))
    (answer : Answer) :
    Alike keys (engine.resume setup task answer).engine (other.resume setup task' answer).engine
      (engine.resume setup task answer).progress (other.resume setup task' answer).progress := by
  obtain ⟨htask, -⟩ := Progress.waiting.inj h.plain
  have hmidway' : task'.midway = false := by
    rw [← task'.midway_plain, ← htask, task.midway_plain]
    exact h.equipped
  have hother : other.Minds keys (.waiting task request) := h.minds'.of_plain_eq h.plain.symm
  have hplain : (engine.resume setup task answer).progress.plain =
      (other.resume setup task' answer).progress.plain :=
    calc (engine.resume setup task answer).progress.plain
      _ = (other.resume setup task.plain answer).progress.plain :=
        plain_resume_plain h.equipped h.minds hother h.agrees h.handlers answer
      _ = (other.resume setup task'.plain answer).progress.plain := by rw [htask]
      _ = (other.resume setup task' answer).progress.plain :=
        (plain_resume_plain hmidway' h.minds' h.minds' (fun _ _ => Iff.rfl) rfl answer).symm
  have hturn := @confined_resume setup _ _ _ _ h.minds answer
  have hturn' := @confined_resume setup _ _ _ _ h.minds' answer
  rw [← task'.drops?_plain, ← htask, task.drops?_plain] at hturn'
  refine ⟨hplain, (carries_resume h.equipped answer).equipped, hturn.minds, hturn'.minds,
    hturn.agrees hturn' hplain h.agrees, ?_⟩
  rw [hturn.handlers, hturn'.handlers, h.handlers]

end Engine

end Automation
