import Automation.Identifier
import Automation.Sync.Plan

/-!
# Payloads of the messaging platform

The bodies exchanged with the messaging platform. Answers are validated on receipt, so that a
malformed body is an error of the platform and nothing else.

## Main definitions

* `MessageKind`, `ConversationStatus` — the platform's vocabulary.
* `MessageResponse`, `ConversationResponse` — what the platform answers.
* `ConversationUpdate` — what an update of a conversation changes, and its request body.
-/

namespace Automation

open Validation

/-- Who wrote a message. -/
inductive MessageKind where
  | incoming
  | outgoing
  deriving DecidableEq, Repr

/-- The number of a message kind on the wire. -/
def MessageKind.code : MessageKind → Nat
  | .incoming => 0
  | .outgoing => 1

/-- The states of a conversation that can be asked for. -/
inductive ConversationStatus where
  | isOpen
  | resolved
  | pending
  deriving DecidableEq, Repr

namespace ConversationStatus

def name : ConversationStatus → String
  | .isOpen => "open"
  | .resolved => "resolved"
  | .pending => "pending"

def ofJson (value : Json) : Validated ConversationStatus :=
  match value with
  | .str s => match [isOpen, resolved, pending].find? (·.name = s) with
    | some status => .ok status
    | none =>
      Validated.refuse (if Text.hasHalf s then .textNotUnicode else .unknownLiteral) value
  | .null | .bool _ | .num _ | .arr _ | .obj _ => Validated.refuse .unknownLiteral value

end ConversationStatus

/-- The time a message was made, in whatever form the platform has it. -/
def readCreationTime (value : Json) : Validated Json :=
  match value with
  | .num n => .ok (.num n)
  | .str s => .ok (.str s)
  | .bool b => .ok (.ofInt (if b then 1 else 0))
  | .null => .ok .null
  | .arr _ | .obj _ => .error [
      ⟨[.field "int"], .integerExpected, value⟩, ⟨[.field "float"], .numberExpected, value⟩,
      ⟨[.field "str"], .textExpected, value⟩]

/-- The platform's answer to a message. -/
structure MessageResponse where
  id : Int
  content? : Option String
  messageType : Identifier
  createdAt : Json
  conversationId? : Option Int
  deriving DecidableEq, Repr

namespace MessageResponse

def ofJson (document : Json) : Validated MessageResponse :=
  record document fun fields =>
    Validated.accept MessageResponse.mk
      |>.ap (required ["id"] integer fields)
      |>.ap (optional ["content"] none (nullable Validation.text) fields)
      |>.ap (required ["message_type"] Identifier.ofJson fields)
      |>.ap (optional ["created_at"] .null readCreationTime fields)
      |>.ap (optional ["conversation_id"] none (nullable integer) fields)

def toJson (response : MessageResponse) : Json := .obj [
  ("id", .ofInt response.id),
  ("content", match response.content? with | some s => .str s | none => .null),
  ("message_type", response.messageType.toJson),
  ("created_at", response.createdAt),
  ("conversation_id", match response.conversationId? with | some i => .ofInt i | none => .null)]

end MessageResponse

/-- A reader that takes `null` for the default. -/
def nullAs {α : Type} (default : α) (read : Json → Validated α) : Json → Validated α
  | .null => .ok default
  | value => read value

/-- The platform's answer about a conversation. -/
structure ConversationResponse where
  id : Int
  status : String
  labels : List String
  customAttributes : Json.Members
  deriving DecidableEq, Repr

namespace ConversationResponse

def ofJson (document : Json) : Validated ConversationResponse :=
  record document fun fields =>
    Validated.accept ConversationResponse.mk
      |>.ap (required ["id"] integer fields)
      |>.ap (required ["status"] Validation.text fields)
      |>.ap (optional ["labels"] [] (nullAs [] (list Validation.text)) fields)
      |>.ap (optional ["custom_attributes"] [] (nullAs [] members) fields)

def toJson (response : ConversationResponse) : Json := .obj [
  ("id", .ofInt response.id),
  ("status", .str response.status),
  ("labels", LabelDelta.textsJson response.labels),
  ("custom_attributes", (Json.obj response.customAttributes).finiteOrNull)]

end ConversationResponse

/-- What an update of a conversation changes; parts that are not set stay as they are. -/
structure ConversationUpdate where
  status? : Option ConversationStatus
  assigneeId? : Option Int
  customAttributes? : Option Json.Members
  deriving DecidableEq, Repr

namespace ConversationUpdate

def ofJson (document : Json) : Validated ConversationUpdate :=
  record document fun fields =>
    Validated.accept ConversationUpdate.mk
      |>.ap (optional ["status"] none (nullable ConversationStatus.ofJson) fields)
      |>.ap (optional ["assignee_id"] none (nullable integer) fields)
      |>.ap (optional ["custom_attributes"] none (nullable members) fields)

def toJson (update : ConversationUpdate) : Json := .obj [
  ("status", match update.status? with | some s => .str s.name | none => .null),
  ("assignee_id", match update.assigneeId? with | some i => .ofInt i | none => .null),
  ("custom_attributes", match update.customAttributes? with
    | some attributes => (Json.obj attributes).finiteOrNull
    | none => .null)]

/-- The request body: only the parts that are set. -/
def payload (update : ConversationUpdate) : Json := .obj (
  (match update.status? with | some s => [("status", .str s.name)] | none => []) ++
  (match update.assigneeId? with | some i => [("assignee_id", .ofInt i)] | none => []) ++
  (match update.customAttributes? with
    | some attributes => [("custom_attributes", .obj attributes)]
    | none => []))

end ConversationUpdate

end Automation
