import Automation.Policy.Action

/-!
# Execution plans

A plan is a batch of effects for one conversation: keyed entries, of which the messages are sent,
labels to add and to remove, and contact attributes to write. Applying it gives a result that
counts what landed and has one line for each failure.

## Main definitions

* `PersistEntry`, `LabelDelta`, `ExecutionPlan` — a plan and its parts.
* `SyncResult` — what applying a plan gives.
* `SyncRequest`, `ActionsRequest` — what producers submit.
-/

namespace Automation

open Validation

/-- The kinds of keyed entries. -/
inductive PersistKind where
  | message
  | contactAttribute
  | label
  deriving DecidableEq, Repr

namespace PersistKind

/-- The name of a kind in documents. -/
def name : PersistKind → String
  | .message => "message"
  | .contactAttribute => "attribute"
  | .label => "label"

/-- The kind of a name. -/
def ofName? (name : String) : Option PersistKind :=
  [message, contactAttribute, label].find? (·.name = name)

def ofJson (value : Json) : Validated PersistKind :=
  match value with
  | .str s => match ofName? s with
    | some kind => .ok kind
    | none =>
      Validated.refuse (if Text.hasHalf s then .textNotUnicode else .unknownMember) value
  | .null | .bool _ | .num _ | .arr _ | .obj _ => Validated.refuse .unknownMember value

end PersistKind

/-- A keyed effect; only messages are sent. -/
structure PersistEntry where
  kind : PersistKind
  value : Json
  deriving DecidableEq, Repr

namespace PersistEntry

def ofJson (document : Json) : Validated PersistEntry :=
  record document fun fields =>
    Validated.accept PersistEntry.mk
      |>.ap (required ["kind", "type"] PersistKind.ofJson fields)
      |>.ap (optional ["value"] .null anything fields)

def toJson (entry : PersistEntry) : Json := .obj [
  ("kind", .str entry.kind.name),
  ("value", entry.value.finiteOrNull)]

end PersistEntry

/-- Labels to add and to remove. -/
structure LabelDelta where
  add : List String
  remove : List String
  deriving DecidableEq, Repr, Inhabited

namespace LabelDelta

/-- Nothing to add or remove. -/
def none : LabelDelta := ⟨[], []⟩

def ofJson (document : Json) : Validated LabelDelta :=
  record document fun fields =>
    Validated.accept LabelDelta.mk
      |>.ap (optional ["add"] [] (list Validation.text) fields)
      |>.ap (optional ["remove"] [] (list Validation.text) fields)

/-- The document of a list of texts. -/
def textsJson (texts : List String) : Json := .arr (texts.map Json.str)

def toJson (delta : LabelDelta) : Json := .obj [
  ("add", textsJson delta.add),
  ("remove", textsJson delta.remove)]

/-- Whether there is nothing to add or remove. -/
def isEmpty (delta : LabelDelta) : Bool := delta.add.isEmpty && delta.remove.isEmpty

end LabelDelta

/-- A batch of effects for one conversation. -/
structure ExecutionPlan where
  persist : List (String × PersistEntry)
  labels : LabelDelta
  contactAttributes : Json.Members
  emitEvents : List String
  deriving DecidableEq, Repr, Inhabited

namespace ExecutionPlan

def ofJson (document : Json) : Validated ExecutionPlan :=
  record document fun fields =>
    Validated.accept ExecutionPlan.mk
      |>.ap (optional ["persist"] [] (map PersistEntry.ofJson) fields)
      |>.ap (optional ["labels"] .none LabelDelta.ofJson fields)
      |>.ap (optional ["contact_attributes"] [] members fields)
      |>.ap (optional ["emit_events"] [] (list Validation.text) fields)

def toJson (plan : ExecutionPlan) : Json := .obj [
  ("persist", .obj (plan.persist.map fun (key, entry) => (key, entry.toJson))),
  ("labels", plan.labels.toJson),
  ("contact_attributes", (Json.obj plan.contactAttributes).finiteOrNull),
  ("emit_events", LabelDelta.textsJson plan.emitEvents)]

/-- The messages of a plan under their keys, in order. -/
def messages (plan : ExecutionPlan) : List (String × Json) :=
  plan.persist.filterMap fun (key, entry) =>
    if entry.kind = .message then some (key, entry.value) else none

end ExecutionPlan

/-- Counts of what landed, and one line for each failure. -/
structure SyncResult where
  messagesSent : Int
  labelsUpdated : Int
  attributesUpdated : Int
  errors : List String
  deriving DecidableEq, Repr

namespace SyncResult

/-- The result of doing nothing. -/
def nothing : SyncResult := ⟨0, 0, 0, []⟩

def ofJson (document : Json) : Validated SyncResult :=
  record document fun fields =>
    Validated.accept SyncResult.mk
      |>.ap (optional ["messages_sent"] 0 integer fields)
      |>.ap (optional ["labels_updated"] 0 integer fields)
      |>.ap (optional ["attributes_updated"] 0 integer fields)
      |>.ap (optional ["errors"] [] (list Validation.text) fields)

def toJson (result : SyncResult) : Json := .obj [
  ("messages_sent", .ofInt result.messagesSent),
  ("labels_updated", .ofInt result.labelsUpdated),
  ("attributes_updated", .ofInt result.attributesUpdated),
  ("errors", LabelDelta.textsJson result.errors)]

/-- The result with one more failure. -/
def addError (result : SyncResult) (line : String) : SyncResult :=
  { result with errors := result.errors ++ [line] }

end SyncResult

/-- A submitted plan. -/
structure SyncRequest where
  tenantId : String
  conversationId : Int
  plan : ExecutionPlan
  deriving DecidableEq, Repr

namespace SyncRequest

def ofJson (document : Json) : Validated SyncRequest :=
  record document fun fields =>
    Validated.accept SyncRequest.mk
      |>.ap (required ["tenant_id"] nonEmptyText fields)
      |>.ap (required ["conversation_id"] (integerAbove 0) fields)
      |>.ap (required ["execution_plan"] ExecutionPlan.ofJson fields)

def toJson (request : SyncRequest) : Json := .obj [
  ("tenant_id", .str request.tenantId),
  ("conversation_id", .ofInt request.conversationId),
  ("execution_plan", request.plan.toJson)]

end SyncRequest

/-- A submitted list of actions. -/
structure ActionsRequest where
  tenantId : String
  conversationId : Int
  actions : List Action
  deriving DecidableEq, Repr

namespace ActionsRequest

def ofJson (document : Json) : Validated ActionsRequest :=
  record document fun fields =>
    Validated.accept ActionsRequest.mk
      |>.ap (required ["tenant_id"] nonEmptyText fields)
      |>.ap (required ["conversation_id"] (integerAbove 0) fields)
      |>.ap (optional ["actions"] [] (list Action.ofJson) fields)

def toJson (request : ActionsRequest) : Json := .obj [
  ("tenant_id", .str request.tenantId),
  ("conversation_id", .ofInt request.conversationId),
  ("actions", .arr (request.actions.map Action.toJson))]

end ActionsRequest

end Automation
