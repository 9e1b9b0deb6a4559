import Automation.Validation.Field

/-!
# Policy actions

One side effect that a policy asks for: a type and parameters. The type is any text, so that
actions of later versions still load; `Action.kind?` tells whether it is one of the known kinds.

## Main definitions

* `ActionKind` — the known kinds and their names.
* `Action` — an action and its document.
-/

namespace Automation

open Validation

/-- The kinds of side effects that are known. -/
inductive ActionKind where
  | sendMessage
  | assignAgent
  | updateContact
  | triggerWebhook
  | addLabel
  | updateAttributes
  deriving DecidableEq, Repr

namespace ActionKind

/-- All kinds. -/
def all : List ActionKind :=
  [sendMessage, assignAgent, updateContact, triggerWebhook, addLabel, updateAttributes]

/-- The name of a kind in documents. -/
def name : ActionKind → String
  | .sendMessage => "send_message"
  | .assignAgent => "assign_agent"
  | .updateContact => "update_contact"
  | .triggerWebhook => "trigger_webhook"
  | .addLabel => "add_label"
  | .updateAttributes => "update_attributes"

/-- The kind of a name. -/
def ofName? (name : String) : Option ActionKind := all.find? (·.name = name)

end ActionKind

/-- One side effect that a policy asks for. -/
structure Action where
  type : String
  params : Json.Members
  deriving DecidableEq, Repr

namespace Action

/-- The known kind of an action. -/
def kind? (action : Action) : Option ActionKind := ActionKind.ofName? action.type

def ofJson (document : Json) : Validated Action :=
  record document fun fields =>
    Validated.accept Action.mk
      |>.ap (required ["type"] Validation.text fields)
      |>.ap (optional ["params"] [] members fields)

def toJson (action : Action) : Json := .obj [
  ("type", .str action.type),
  ("params", (Json.obj action.params).finiteOrNull)]

/-- A parameter, `null` when it is missing. -/
def param (action : Action) (name : String) : Json := (action.params.lookup name).getD .null

end Action

end Automation
