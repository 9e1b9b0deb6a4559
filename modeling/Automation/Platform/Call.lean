import Automation.Platform.Payload

/-!
# Calls of the messaging platform

The calls that can be made about a conversation, and the request that each of them is: its method,
the resource below the conversation, and its body.

## Main definitions

* `Platform.Call` — the calls.
* `Platform.Call.method`, `Call.resource`, `Call.body?` — the request of a call.
-/

namespace Automation.Platform

/-- A call about a conversation. Contents and labels go out as they are given. -/
inductive Call where
  | sendMessage (content : Json) (kind : MessageKind) (isPrivate : Json)
  | update (changes : ConversationUpdate)
  | addLabels (labels : Json)
  | removeLabels (labels : Json)
  | fetch
  deriving DecidableEq, Repr

namespace Call

/-- Send a text to the contact. -/
def send (content : String) : Call := .sendMessage (.str content) .outgoing (.bool false)

/-- Put labels on a conversation. -/
def attach (labels : List String) : Call := .addLabels (LabelDelta.textsJson labels)

/-- Take labels off a conversation. -/
def detach (labels : List String) : Call := .removeLabels (LabelDelta.textsJson labels)

/-- Replace the custom attributes of a conversation. -/
def writeAttributes (attributes : Json.Members) : Call := .update ⟨none, none, some attributes⟩

/-- Assign an agent to a conversation. -/
def assign (agent : Int) : Call := .update ⟨none, some agent, none⟩

/-- What a call does, in words. -/
def purpose : Call → String
  | .sendMessage .. => "send message"
  | .update _ => "update conversation"
  | .addLabels _ => "add labels"
  | .removeLabels _ => "remove labels"
  | .fetch => "fetch conversation"

/-- The method of the request. -/
def method : Call → String
  | .sendMessage .. | .addLabels _ => "POST"
  | .update _ => "PATCH"
  | .removeLabels _ => "DELETE"
  | .fetch => "GET"

/-- The resource below the conversation. -/
def resource : Call → String
  | .sendMessage .. => "/messages"
  | .addLabels _ | .removeLabels _ => "/labels"
  | .update _ | .fetch => ""

/-- The body of the request. -/
def body? : Call → Option Json
  | .sendMessage content kind isPrivate => some (.obj [
      ("content", content), ("message_type", .ofNat kind.code), ("private", isPrivate)])
  | .update changes => some changes.payload
  | .addLabels labels | .removeLabels labels => some (.obj [("labels", labels)])
  | .fetch => none

end Call

/-- What a call answers. -/
inductive Reply where
  | message (response : MessageResponse)
  | conversation (response : ConversationResponse)
  | nothing
  deriving DecidableEq, Repr

end Automation.Platform
