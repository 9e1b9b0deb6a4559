import Automation.Proofs.Sync.Solo
import Mathlib.Algebra.BigOperators.Group.List.Basic

/-!
# The efforts of a sync

What a plan asks of a sync is a list of efforts: the messages that are not processed yet, labels to
add, labels to remove and attributes to write. Each of them is one call, which is retried. How
often it is attempted and with what outcome is its performance, and the result of a sync is what its
performances come to.

## Main definitions

* `Effort`, `ExecutionPlan.efforts` — what a plan asks for, in the order in which it is done.
* `Performance`, `World.Performs` — how often an effort is attempted, and with what outcome.
* `SyncResult.including` — a result with what performances add to it.

## Main statements

* `ExecutionPlan.efforts_eq` — the efforts of a plan are its new messages and its changes.
* `SyncResult.including_append` — performances add to a result one after another.
* `World.Performs.attempts_le` — no effort is attempted more often than the options say.
-/

namespace Automation

/-- One of the things that a plan asks for. -/
inductive Effort where
  | message (key : String) (value : Json)
  | addLabels (labels : List String)
  | removeLabels (labels : List String)
  | writeAttributes (attributes : Json.Members)
  deriving DecidableEq, Repr

/-- The conversation of a tenant, with the client that reaches it. -/
structure Channel where
  client : Client
  tenantId : String
  conversation : Json
  deriving DecidableEq, Repr

namespace Channel

variable {channel : Channel} {engine : Engine} {key other : String}

/-- The key under which a message of the conversation is sent at most once. -/
def messageKey (channel : Channel) (key : String) : String :=
  Automation.messageKey channel.tenantId channel.conversation key

/-- Whether a key of the conversation counts as sent. -/
def seen (channel : Channel) (engine : Engine) (key : String) : Bool :=
  engine.isProcessed channel.tenantId channel.conversation key

theorem messageKey_inj : channel.messageKey key = channel.messageKey other ↔ key = other := by
  simp [messageKey, Automation.messageKey, String.append_right_inj]

theorem seen_iff :
    channel.seen engine key = true ↔ channel.messageKey key ∈ engine.processed := by
  simp [seen, Engine.isProcessed, messageKey]

theorem not_mem_of_seen (h : channel.seen engine key = false) :
    channel.messageKey key ∉ engine.processed := by
  rw [← seen_iff, h]
  exact Bool.false_ne_true

end Channel

namespace Effort

/-- The call of an effort. -/
def call : Effort → Platform.Call
  | .message _ value => .send (Platform.content value)
  | .addLabels labels => .attach labels
  | .removeLabels labels => .detach labels
  | .writeAttributes attributes => .writeAttributes attributes

/-- What stands in front of the failure of an effort. -/
def title : Effort → String
  | .message key _ => s!"Failed to send message '{key}': "
  | .addLabels _ => "Failed to add labels: "
  | .removeLabels _ => "Failed to remove labels: "
  | .writeAttributes _ => "Failed to update attributes: "

/-- How many messages an effort sends. -/
def messages : Effort → Nat
  | .message _ _ => 1
  | .addLabels _ | .removeLabels _ | .writeAttributes _ => 0

/-- How many labels an effort changes. -/
def labels : Effort → Nat
  | .addLabels labels | .removeLabels labels => labels.length
  | .message _ _ | .writeAttributes _ => 0

/-- How many attributes an effort writes. -/
def attributes : Effort → Nat
  | .writeAttributes attributes => attributes.length
  | .message _ _ | .addLabels _ | .removeLabels _ => 0

/-- The request that each attempt of an effort makes. -/
def request (channel : Channel) (effort : Effort) : Request :=
  .call channel.client channel.conversation effort.call

/-- The key that an effort leaves processed when it lands. -/
def messageKey? (channel : Channel) : Effort → Option String
  | .message key _ => some (channel.messageKey key)
  | .addLabels _ | .removeLabels _ | .writeAttributes _ => none

/-- The effort that makes a change. -/
def ofChange : Change → Effort
  | .addLabels labels => .addLabels labels
  | .removeLabels labels => .removeLabels labels
  | .writeAttributes attributes => .writeAttributes attributes

theorem request_ofChange (channel : Channel) (change : Change) :
    (ofChange change).request channel =
      .call channel.client channel.conversation change.call := by
  cases change <;> rfl

theorem messageKey?_ofChange (channel : Channel) (change : Change) :
    (ofChange change).messageKey? channel = none := by
  cases change <;> rfl

theorem title_ofChange (change : Change) :
    (ofChange change).title = "Failed to " ++ change.purpose ++ ": " := by
  cases change with
  | addLabels labels =>
    exact (by decide : "Failed to add labels: " = "Failed to " ++ "add labels" ++ ": ")
  | removeLabels labels =>
    exact (by decide : "Failed to remove labels: " = "Failed to " ++ "remove labels" ++ ": ")
  | writeAttributes attributes =>
    exact (by decide :
      "Failed to update attributes: " = "Failed to " ++ "update attributes" ++ ": ")

theorem title_message (key : String) (value : Json) (text : String) :
    (message key value).title ++ text = Syncing.unsentLine key text := rfl

/-- The messages among entries whose keys were not seen before. -/
def unseen (seen : String → Bool) (messages : List (String × Json)) : List Effort :=
  messages.filterMap fun (key, value) => if seen key then none else some (.message key value)

theorem unseen_cons_of_seen {seen : String → Bool} {key : String} (h : seen key = true)
    (value : Json) (rest : List (String × Json)) :
    unseen seen ((key, value) :: rest) = unseen seen rest := by
  simp [unseen, h]

theorem unseen_cons_of_unseen {seen : String → Bool} {key : String} (h : seen key = false)
    (value : Json) (rest : List (String × Json)) :
    unseen seen ((key, value) :: rest) = .message key value :: unseen seen rest := by
  simp [unseen, h]

theorem unseen_congr {seen seen' : String → Bool} {messages : List (String × Json)}
    (h : ∀ key ∈ messages.map Prod.fst, seen key = seen' key) :
    unseen seen messages = unseen seen' messages := by
  refine List.filterMap_congr fun (key, value) hmem => ?_
  have hkey : seen key = seen' key := h key (List.mem_map_of_mem hmem)
  simp only [hkey]

end Effort

/-- What a plan asks for when some keys were seen before: the messages with other keys, in their
order; then labels to add, labels to remove and attributes, unless there are none. -/
def ExecutionPlan.efforts (plan : ExecutionPlan) (seen : String → Bool) : List Effort :=
  (plan.persist.filterMap fun (key, entry) =>
    if entry.kind = .message ∧ seen key = false then some (.message key entry.value) else none) ++
  (if plan.labels.add = [] then [] else [.addLabels plan.labels.add]) ++
  (if plan.labels.remove = [] then [] else [.removeLabels plan.labels.remove]) ++
  (if plan.contactAttributes = [] then [] else [.writeAttributes plan.contactAttributes])

theorem ExecutionPlan.efforts_eq (plan : ExecutionPlan) (seen : String → Bool) :
    plan.efforts seen =
      Effort.unseen seen plan.messages ++ plan.changes.map Effort.ofChange := by
  have hmessages : Effort.unseen seen plan.messages =
      plan.persist.filterMap fun (key, entry) =>
        if entry.kind = .message ∧ seen key = false then some (.message key entry.value)
        else none := by
    rw [Effort.unseen, messages, List.filterMap_filterMap]
    refine List.filterMap_congr fun (key, entry) _ => ?_
    by_cases hkind : entry.kind = .message <;> cases hseen : seen key <;> simp [hkind, hseen]
  simp only [efforts, hmessages, changes, List.append_assoc, List.map_append, List.isEmpty_iff]
  congr 1
  split <;> split <;> split <;> rfl

theorem ExecutionPlan.nodup_messages {plan : ExecutionPlan}
    (h : (plan.persist.map Prod.fst).Nodup) : (plan.messages.map Prod.fst).Nodup := by
  refine h.sublist ?_
  rw [messages]
  induction plan.persist with
  | nil => exact List.Sublist.refl _
  | cons entry rest ih =>
    by_cases hkind : entry.2.kind = .message
    · simpa [List.filterMap_cons, hkind] using ih
    · simpa [List.filterMap_cons, hkind] using ih.cons entry.1

/-- How an effort was performed: in how many attempts, and with what failure, if it failed. -/
structure Performance where
  effort : Effort
  attempts : Nat
  failure? : Option Failure

namespace Performance

/-- Whether the last attempt succeeded. -/
def succeeded (performance : Performance) : Bool := performance.failure?.isNone

/-- The line about an effort that has failed. -/
def errorLine? (performance : Performance) : Option String :=
  performance.failure?.map fun failure => performance.effort.title ++ failure.message

/-- The requests that the attempts of an effort make. -/
def requests (channel : Channel) (performance : Performance) : List Request :=
  List.replicate performance.attempts (performance.effort.request channel)

/-- The effort was performed with success and leaves a key processed. -/
def Marks (channel : Channel) (performance : Performance) (key : String) : Prop :=
  performance.succeeded = true ∧ performance.effort.messageKey? channel = some key

theorem marks_message {channel : Channel} {key : String} {value : Json} {attempts : Nat}
    {failure? : Option Failure} {other : String} :
    (Performance.mk (.message key value) attempts failure?).Marks channel other ↔
      failure? = none ∧ other = channel.messageKey key := by
  cases failure? <;> simp [Marks, succeeded, Effort.messageKey?, eq_comm]

end Performance

/-- A result with what performances add to it: what succeeded is counted, and what failed has a
line each, in order. -/
def SyncResult.including (result : SyncResult) (performances : List Performance) : SyncResult :=
  let landed := performances.filter Performance.succeeded
  { messagesSent := result.messagesSent + (landed.map fun p => p.effort.messages).sum
    labelsUpdated := result.labelsUpdated + (landed.map fun p => p.effort.labels).sum
    attributesUpdated := result.attributesUpdated + (landed.map fun p => p.effort.attributes).sum
    errors := result.errors ++ performances.filterMap Performance.errorLine? }

theorem SyncResult.including_nil (result : SyncResult) : result.including [] = result := by
  simp [including]

theorem SyncResult.including_append (result : SyncResult) (first second : List Performance) :
    result.including (first ++ second) = (result.including first).including second := by
  simp [including, add_assoc]

theorem SyncResult.including_success (result : SyncResult) (effort : Effort) (attempts : Nat) :
    result.including [⟨effort, attempts, none⟩] =
      { result with
        messagesSent := result.messagesSent + effort.messages
        labelsUpdated := result.labelsUpdated + effort.labels
        attributesUpdated := result.attributesUpdated + effort.attributes } := by
  simp [including, List.filter_cons, Performance.succeeded, Performance.errorLine?]

theorem SyncResult.including_failure (result : SyncResult) (effort : Effort) (attempts : Nat)
    (failure : Failure) : result.including [⟨effort, attempts, some failure⟩] =
      result.addError (effort.title ++ failure.message) := by
  simp [including, Performance.succeeded, Performance.errorLine?, addError]

/-- Performances go as a world has it, one after another, when as many calls were made before as
given: the attempts of each are the fewest that settle it, and its outcome is that of the last. -/
def World.Performs (world : World) : Nat → List Performance → Prop
  | _, [] => True
  | made, performance :: rest =>
    IsLeast {attempt | 0 < attempt ∧ world.Settles made attempt} performance.attempts ∧
      performance.failure? = world.outcome (made + performance.attempts) ∧
      world.Performs (made + performance.attempts) rest

/-- With a whole number of attempts, no effort is attempted more often, except that there is always
a first attempt. -/
theorem World.Performs.attempts_le {world : World} {limit : Int}
    (hlimit : world.setup.retry.maxAttempts.value = .int limit) {made : Nat}
    {performances : List Performance} (h : world.Performs made performances) :
    ∀ performance ∈ performances, (performance.attempts : Int) ≤ max 1 limit := by
  induction performances generalizing made with
  | nil => simp
  | cons performance rest ih =>
    obtain ⟨⟨-, hlower⟩, -, hrest⟩ := h
    have hlast : (max 1 limit).toNat ∈
        {attempt | 0 < attempt ∧ world.Settles made attempt} :=
      ⟨by omega, .inr ((RetryOptions.isLast_iff hlimit).mpr (by omega))⟩
    have hle := hlower hlast
    intro other hmem
    rcases List.mem_cons.mp hmem with rfl | hmem
    · omega
    · exact ih hrest other hmem

end Automation
