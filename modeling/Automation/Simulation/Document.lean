import Automation.Simulation.Script

/-!
# Simulations in documents

The outside of a simulation in JSON: the exchanges that a script asks for, and the contacts that
were recorded.

## Main definitions

* `Exchange.ofJson` — the exchange that a document asks for.
* `Contact.toJson` — the document of a contact.
-/

namespace Automation

/-- The exchange that a document asks for: the standard response for a text, otherwise a message
about why no response came, or a response with a text or a JSON value. No value is no body. -/
def Exchange.ofJson (document : Json) : Exchange :=
  let status : Int := match document.get? "status" with
    | some (.num (.int i)) => i
    | _ => 200
  match document with
  | .str _ => .answered Simulation.standardResponse
  | _ =>
    match document.get? "connect_error" <|> document.get? "timeout" with
    | some message => .broken message.plainText
    | none =>
      match document.get? "text", document.get? "json" with
      | some text, _ => .answered ⟨status, text.plainText⟩
      | none, some .null | none, none => .answered ⟨status, ""⟩
      | none, some value => .answered (.json status value)

namespace Simulation

/-- The name of a way out. -/
def Channel.name : Channel → String
  | .platform => "platform"
  | .webhook => "webhook"

/-- What a call says, apart from its conversation. -/
def callDetails : Platform.Call → Json.Members
  | .sendMessage content _ _ => [("content", content)]
  | .update changes => [("args", changes.payload)]
  | .addLabels labels | .removeLabels labels => [("labels", labels)]
  | .fetch => []

/-- The members of a contact through a client. -/
def clientMembers (client : Client) (method : String) : Json.Members :=
  [("client", .ofNat client.number), ("tenant", .str client.tenantId), ("method", .str method)]

/-- The members of a document. -/
def membersOf : Json → Json.Members
  | .obj members => members
  | .null | .bool _ | .num _ | .str _ | .arr _ => []

/-- The document of a contact. -/
def Contact.toJson : Contact → Json
  | .called client conversation call => .obj (clientMembers client (callName call) ++
      ("conversation_id", conversation) :: callDetails call)
  | .closed client => .obj (clientMembers client "aclose")
  | .sent channel request => .obj (("http", .str channel.name) :: membersOf request.toJson)
  | .handled kind client conversation action => .obj [("handler", .str kind.name),
      ("client", .ofNat client.number), ("conversation_id", conversation),
      ("action", action.toJson)]

end Simulation

end Automation
