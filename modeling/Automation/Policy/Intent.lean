import Automation.Failure
import Automation.Platform.Call
import Automation.Policy.Action

/-!
# What actions intend

What an action of a known kind amounts to, given its parameters: one outbound call, nothing at all
when its parameter is missing, or a failure when the parameter makes no sense.

## Main definitions

* `Outbound` — a call of the messaging platform or the delivery of a webhook.
* `Intent`, `Action.intent` — what an action amounts to.
-/

namespace Automation

/-- A call to the outside: of the messaging platform, or of a webhook. -/
inductive Outbound where
  | platform (call : Platform.Call)
  | webhook (url : String) (payload : Json)
  deriving DecidableEq, Repr

/-- What an action amounts to. -/
inductive Intent where
  | nothing (remark : String)
  | impossible (failure : Failure)
  | call (outbound : Outbound)
  deriving DecidableEq, Repr

namespace Action

/-- An action whose parameter is missing. -/
def lacking (kind : ActionKind) (parameter : String) : Intent :=
  .nothing s!"{kind.name} without '{parameter}' param, nothing to do"

/-- The number of an agent that a parameter stands for. -/
def agentNumber (value : Json) : Except Failure Int :=
  match value with
  | .bool b => .ok (if b then 1 else 0)
  | .num n => n.wholePart.mapError .agentNumber
  | .str s => (Text.readInteger s).mapError (.agentText s)
  | .null | .arr _ | .obj _ => .error (.agentKind value)

/-- The attributes that a parameter stands for. -/
def attributesOf (value : Json) : Except Failure Json.Members :=
  match value with
  | .obj members => .ok members
  | .null | .bool _ | .num _ | .str _ | .arr _ => .error .attributesNotObject

/-- The call of a parameter that may make no sense. -/
def calling {α : Type} (parameter : Except Failure α) (call : α → Platform.Call) : Intent :=
  match parameter with
  | .ok value => .call (.platform (call value))
  | .error failure => .impossible failure

/-- What an action of a kind amounts to for a conversation. -/
def intent (conversation : Json) (action : Action) (kind : ActionKind) : Intent :=
  match kind with
  | .sendMessage => .call (.platform (.send (Platform.content (action.param "content"))))
  | .addLabel =>
    let label := action.param "label"
    if label.isTruthy then .call (.platform (.attach [label.plainText]))
    else lacking kind "label"
  | .updateAttributes =>
    let attributes := action.param "attributes"
    if attributes.isTruthy then calling (attributesOf attributes) .writeAttributes
    else lacking kind "attributes"
  | .assignAgent =>
    let agent := action.param "agent_id"
    if agent = .null ∨ agent = .str "" then lacking kind "agent_id"
    else calling (agentNumber agent) .assign
  | .triggerWebhook =>
    let url := action.param "url"
    let payload := action.param "payload"
    if url.isTruthy then
      .call (.webhook url.plainText (if payload.isTruthy then payload else .obj []))
    else lacking kind "url"
  | .updateContact =>
    let id := conversation.plainText
    .nothing
      s!"No contact handler registered, skipping update_contact: conversation_id={id}"

end Action

end Automation
