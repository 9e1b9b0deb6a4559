import Automation.Failure
import Automation.Json.Reader
import Automation.Log
import Automation.Platform.Call
import Automation.Tenant.Basic

/-!
# The client of the messaging platform

Each call is exactly one request to the account of a tenant. The answer is judged by its status
and, where the call reads it, by its body; anything amiss is an error of the platform.

## Main definitions

* `Platform.Account` — where an account is reached and with which token.
* `Platform.Call.request` — the request of a call.
* `Platform.Call.conclude` — what the end of the exchange means for the call.
-/

namespace Automation.Platform

/-- Where an account of the platform is reached and with which token. -/
structure Account where
  base : Url
  token : String
  deriving DecidableEq, Repr

/-- The account of a URL, a token and an account number in the text of the path. -/
def Account.ofTexts (apiUrl token accountId : String) : Except Failure Account := do
  let root := String.ofList (apiUrl.toList.reverse.dropWhile (· = '/')).reverse
  let url ← (Url.read (root ++ "/api/v1/accounts/" ++ accountId)).mapError Failure.badUrl
  let base ← url.asBase.mapError Failure.badUrl
  let _ ← (Text.Codec.ascii.check token).mapError Failure.badToken
  return ⟨base, token⟩

/-- The account that a tenant's credentials give access to. -/
def Account.ofCredentials (credentials : Credentials) : Except Failure Account :=
  ofTexts credentials.apiUrl credentials.apiToken (toString credentials.accountId)

/-- The content type of requests. -/
def contentType : String := "application/json"

/-- The component that reports on calls. -/
def component : String := "chatwoot_client"

namespace Call

/-- The request of a call about a conversation, and its path below the account. -/
def request (account : Account) (conversation : Json) (call : Call) :
    Except Failure (HttpRequest × String) := do
  let _ ← (Text.Codec.utf8.check conversation.plainText).mapError Failure.unencodable
  let path ← (conversationPath conversation call.resource).mapError .invalidConversation
  let reference ← (Url.read path).mapError .badUrl
  let url ← (account.base.resolve reference).mapError .badUrl
  let _ ← call.body?.mapM Failure.checkBody
  let _ ← url.hostHeader.mapError Failure.badHost
  return (⟨call.method, url, some account.token, some contentType, call.body?⟩, path)

/-- The message about a call that went wrong. -/
def failed (call : Call) (reason : String) : String :=
  "Failed to " ++ call.purpose ++ ": " ++ reason

/-- How much of an error's body is kept. -/
def keptBody : Nat := 500

/-- The error of a response whose body is not what the call expects. -/
def invalidBody (call : Call) (response : HttpResponse) (detail : String) : Failure :=
  .platform ⟨call.failed ("invalid response body: " ++ detail), some response.status, []⟩

/-- The value in the body of a response, read as a record of the given name. -/
def readBody {α : Type} (call : Call) (response : HttpResponse) (record : String)
    (read : Json → Validated α) : Except Failure α :=
  match Json.decode? response.body with
  | none => .error (call.invalidBody response "the bytes are no text")
  | some text =>
    match Json.readChars text.toList with
    | .error fault => .error (call.invalidBody response (fault.message text))
    | .ok value =>
      match read value with
      | .error issues => .error (call.invalidBody response (Validation.report record issues))
      | .ok result => .ok result

/-- The body of a response read as a conversation, and the report on success. -/
def readConversation (call : Call) (response : HttpResponse)
    (remark? : ConversationResponse → Option String) : Except Failure Reply × List LogEntry :=
  match call.readBody response "ConversationResponse" ConversationResponse.ofJson with
  | .error failure => (.error failure, [])
  | .ok answer => (.ok (.conversation answer), (remark? answer).toList.map (.info component))

/-- What a response without an error status means for a call. -/
def accept (conversation : Json) (call : Call) (response : HttpResponse) :
    Except Failure Reply × List LogEntry :=
  let id := conversation.plainText
  match call with
  | .sendMessage .. =>
    match call.readBody response "MessageResponse" MessageResponse.ofJson with
    | .error failure => (.error failure, [])
    | .ok answer => (.ok (.message answer), [.info component
        s!"Message sent to Chatwoot: conversation_id={id} message_id={answer.id}"])
  | .update _ => call.readConversation response fun answer =>
      some s!"Conversation updated: conversation_id={id} status={answer.status}"
  | .addLabels labels => call.readConversation response fun _ =>
      some (s!"Labels added to conversation: conversation_id={id} labels=" ++
        labels.plainText)
  | .removeLabels labels => (.ok .nothing, [.info component
      (s!"Labels removed from conversation: conversation_id={id} labels=" ++
        labels.plainText)])
  | .fetch => call.readConversation response fun _ => none

/-- What the end of the exchange means for a call, and the reports on it. -/
def conclude (conversation : Json) (request : HttpRequest) (path : String) (call : Call) :
    Exchange → Except Failure Reply × List LogEntry
  | .broken message =>
    (.error (.platform ⟨call.failed message, none, [("path", .str path)]⟩), [])
  | .answered response =>
    if !request.url.namesProtocol then (.error (.unknownProtocol request.url.shortText), [])
    else if response.isError then
      let start := String.ofList (response.body.toList.take keptBody)
      let body := if response.body = "" then "no body" else start
      let status := response.status
      (.error (.platform ⟨call.failed s!"HTTP {status}", some status,
          [("path", .str path), ("body", .str body)]⟩),
        [.error component s!"Chatwoot API error: status={status} path={path} body={body}"])
    else call.accept conversation response

end Call

end Automation.Platform
