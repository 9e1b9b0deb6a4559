import Automation.Identifier

/-!
# Events

What happened to a subject of a tenant: producers submit drafts, the record store turns them into
events with an id and a time. Conditions see an event as a JSON object, its root.

## Main definitions

* `EventDraft`, `Event` — a submitted and a recorded event.
* `EventDraft.ofJson`, `Event.ofJson`, `Event.toJson` — their documents.
* `Event.root` — the object that the paths of conditions start from.
-/

namespace Automation

open Validation

/-- An event as submitted by a producer; the store supplies a missing time. -/
structure EventDraft where
  tenantId : String
  subjectId : Identifier
  type : String
  payload : Json.Members
  timestamp? : Option Timestamp
  deriving DecidableEq, Repr

/-- A recorded event. -/
structure Event where
  id : Identifier
  tenantId : String
  subjectId : Identifier
  type : String
  payload : Json.Members
  timestamp : Timestamp
  deriving DecidableEq, Repr

/-- A draft under either of the names of its subject and its type. -/
def EventDraft.ofJson (document : Json) : Validated EventDraft :=
  record document fun fields =>
    Validated.accept EventDraft.mk
      |>.ap (required ["tenant_id"] nonEmptyText fields)
      |>.ap (required ["subject_id", "contact_id"] Identifier.ofJson fields)
      |>.ap (required ["type", "event_type"] nonEmptyText fields)
      |>.ap (optional ["payload"] [] members fields)
      |>.ap (optional ["timestamp"] none (nullable timestamp) fields)

namespace EventDraft

def toJson (draft : EventDraft) : Json := .obj [
  ("tenant_id", .str draft.tenantId),
  ("subject_id", draft.subjectId.toJson),
  ("type", .str draft.type),
  ("payload", (Json.obj draft.payload).finiteOrNull),
  ("timestamp", match draft.timestamp? with
    | some t => .str t.text
    | none => .null)]

end EventDraft

namespace Event

def ofJson (document : Json) : Validated Event :=
  record document fun fields =>
    Validated.accept Event.mk
      |>.ap (required ["id"] Identifier.ofJson fields)
      |>.ap (required ["tenant_id"] Validation.text fields)
      |>.ap (required ["subject_id"] Identifier.ofJson fields)
      |>.ap (required ["type"] Validation.text fields)
      |>.ap (optional ["payload"] [] members fields)
      |>.ap (required ["timestamp"] Validation.timestamp fields)

def toJson (event : Event) : Json := .obj [
  ("id", event.id.toJson),
  ("tenant_id", .str event.tenantId),
  ("subject_id", event.subjectId.toJson),
  ("type", .str event.type),
  ("payload", (Json.obj event.payload).finiteOrNull),
  ("timestamp", .str event.timestamp.text)]

/-- The object that the paths of conditions start from. The time is in milliseconds; subject and
type can also be reached under the names `contact_id` and `event_type`. -/
def root (event : Event) : Json := .obj [
  ("id", event.id.toJson),
  ("tenant_id", .str event.tenantId),
  ("subject_id", event.subjectId.toJson),
  ("contact_id", event.subjectId.toJson),
  ("type", .str event.type),
  ("event_type", .str event.type),
  ("payload", .obj event.payload),
  ("timestamp", .ofInt event.timestamp.epochMillis)]

/-- The conversation that an event is about: the one its payload names, its subject when that is
missing, `null` or empty. -/
def conversation (event : Event) : Json :=
  match event.payload.lookup "conversation_id" with
  | none | some .null | some (.str "") => event.subjectId.toJson
  | some named => named

end Event

end Automation
