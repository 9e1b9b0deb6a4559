import Automation.Json.Display
import Automation.Platform.Call
import Automation.Validation.Report

/-!
# Calls by name

A call of the platform given by the name of its kind and by named arguments. Only the changes of
an update are checked; a content or labels go out as they are.

## Main definitions

* `Platform.Call.ofArguments` — the call of a name and arguments.
* `Platform.ArgumentFault` — why there is no such call.
-/

namespace Automation.Platform

/-- Why a name and arguments are no call. -/
inductive ArgumentFault where
  | unexpected (call argument : String)
  | repeated (call argument : String)
  | missing (call argument : String)
  | unknownKind (value : Json)
  | invalid (issues : List Validation.Issue)
  deriving DecidableEq, Repr

/-- The message about arguments that make no call. -/
def ArgumentFault.message : ArgumentFault → String
  | .unexpected call argument =>
    s!"ChatwootClient.{call}() got an unexpected keyword argument '{argument}'"
  | .repeated call argument =>
    s!"ChatwootClient.{call}() got multiple values for argument '{argument}'"
  | .missing call argument =>
    s!"ChatwootClient.{call}() missing 1 required positional argument: '{argument}'"
  | .unknownKind value => value.display ++ " is not a valid MessageKind"
  | .invalid issues => Validation.report "UpdateConversationRequest" issues

/-- The arguments that each call needs, and those that it takes. -/
def argumentNames : List (String × List String × List String) := [
  ("send_message", ["content"], ["message_kind", "private"]),
  ("update_conversation", [], ["status", "assignee_id", "custom_attributes"]),
  ("add_labels", ["labels"], []),
  ("remove_labels", ["labels"], []),
  ("get_conversation", [], [])]

/-- The arguments, provided the call takes all of them and has those that it needs. The
conversation is given already. -/
def checkArguments (call : String) (arguments : Json.Members) : Except ArgumentFault Unit :=
  let (needed, taken) := (argumentNames.lookup call).getD ([], [])
  match arguments.find? fun argument => !(needed ++ taken).contains argument.1 with
  | some (name, _) =>
    .error (if name = "conversation_id" then .repeated call name else .unexpected call name)
  | none =>
    match needed.find? fun name => (arguments.lookup name).isNone with
    | some name => .error (.missing call name)
    | none => .ok ()

/-- The kind of message that a value names by its number. -/
def messageKind : Json → Except ArgumentFault MessageKind
  | .num n =>
    match [MessageKind.incoming, MessageKind.outgoing].find? fun kind =>
        n.eqv (.int kind.code) with
    | some kind => .ok kind
    | none => .error (.unknownKind (.num n))
  | .bool b => .ok (if b then .outgoing else .incoming)
  | value => .error (.unknownKind value)

/-- The call of a name and arguments. -/
def Call.ofArguments (call : String) (arguments : Json.Members) : Except ArgumentFault Call := do
  checkArguments call arguments
  let argument := fun name default => (arguments.lookup name).getD default
  match call with
  | "send_message" =>
    let kind ← messageKind (argument "message_kind" (.ofNat MessageKind.outgoing.code))
    return .sendMessage (argument "content" .null) kind (argument "private" (.bool false))
  | "update_conversation" =>
    return .update (← (ConversationUpdate.ofJson (.obj arguments)).mapError .invalid)
  | "add_labels" => return .addLabels (argument "labels" .null)
  | "remove_labels" => return .removeLabels (argument "labels" .null)
  | _ => return .fetch

end Automation.Platform
