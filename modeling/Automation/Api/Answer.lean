import Automation.Api.Demand
import Automation.Json.Writer
import Automation.Log
import Automation.Settings

/-!
# Answers to requests

The answer to a request has a status and, with few exceptions, a JSON body. A refused request, a
failure that the service defines and any other failure each have answers of their own form. An
answer that cannot go out, because strict JSON does not express its numbers or UTF-8 its texts, is
replaced by the one for an unforeseen failure, whatever has been done by then.

## Main definitions

* `ApiAnswer` — an answer.
* `Refusal.answer`, `Failure.answer`, `Demand.answer` — the answers of each form.
* `ApiRequest.checked` — an answer, unless it cannot go out.
* `ApiRequest.refused`, `ApiRequest.concluded` — the answer that a request gets in the end, with the
  reports on it.
* `ApiRequest.sent` — what is sent of an answer.
-/

namespace Automation

open Validation

/-- The answer to a request. -/
structure ApiAnswer where
  status : Nat
  body? : Option Json
  deriving DecidableEq, Repr

/-- The body that tells of an error. -/
def errorBody (code : ErrorCode) (message : String) (details? : Option Json) : Json :=
  let details := details?.toList.map fun details => ("details", details)
  .obj [("success", .bool false),
    ("error", .obj ([("code", .str code.name), ("message", .str message)] ++ details))]

/-- The step to an issue in an answer. Names are shown with replacement characters for what is no
character in them. -/
def Validation.Step.toJson : Step → Json
  | .field name => .str (Text.lossy name)
  | .position index => .ofNat index

/-- The code of a rule that a request breaks. -/
def requestCode : Rule → String
  | .recordExpected => "model_attributes_type"
  | rule => rule.code

/-- An issue in an answer: its rule, its place and the value that breaks the rule. -/
def Validation.Issue.toJson (issue : Issue) : Json := .obj [
  ("type", .str (requestCode issue.rule)),
  ("loc", .arr (issue.place.map Step.toJson)),
  ("input", issue.input)]

/-- The names of missing fields, each as the way to it inside its part of the request. -/
def missingNames (issues : List Issue) : List String :=
  (issues.filter (·.rule = .missing)).map fun issue =>
    ".".intercalate ((issue.place.drop 1).map Step.text)

/-- The answer to a refused request. Missing fields come before all other issues. -/
def Refusal.answer : Refusal → ApiAnswer
  | .unknownPath => ⟨404, some (.obj [("detail", .str "Not Found")])⟩
  | .wrongMethod => ⟨405, some (.obj [("detail", .str "Method Not Allowed")])⟩
  | .moved => ⟨307, none⟩
  | .unreadableBody =>
    ⟨400, some (.obj [("detail", .str "There was an error parsing the body")])⟩
  | .invalid issues =>
    let missing := missingNames issues
    let details := Json.obj [("errors", .arr (issues.map Issue.toJson))]
    ⟨422, some (if missing.isEmpty then
        errorBody .validation "Request validation failed" (some details)
      else
        errorBody .missingField
          ("Missing required fields: " ++ ", ".intercalate missing) (some details))⟩

/-- Whether an answer can go out. -/
def ApiAnswer.isSendable (answer : ApiAnswer) : Bool := answer.body?.all Json.isSendable

/-- The answer to a request that fails unforeseen. -/
def ApiAnswer.unforeseen : ApiAnswer :=
  ⟨500, some (errorBody .internal "Internal server error" none)⟩

/-- The answer about the service's configuration. -/
def Settings.answer (settings : Settings) : Json := .obj [
  ("app", .obj [
    ("name", .str settings.appName),
    ("environment", .str settings.environment),
    ("log_level", .str settings.logLevel),
    ("port", .ofInt settings.port)]),
  ("event_store_backend", .str settings.storeBackend),
  ("retry", settings.retryOptions.toJson.finiteOrNull),
  ("default_tenant", .str settings.tenantId)]

/-- The data of a result. -/
def ServiceResult.data : ServiceResult → Json
  | .event recorded => recorded.toJson
  | .events found => .arr (found.map Event.toJson)
  | .job (.synced result) => result.toJson
  | .job .acted | .job (.client _) | .job .disposed | .tenant _ | .actions _ | .nothing => .null

/-- The answer with data. -/
def ApiAnswer.data (status : Nat) (data : Json) : ApiAnswer :=
  ⟨status, some (.obj [("data", data)])⟩

/-- The answer to a demand that was met; its call, if it took one, gave a result. -/
def Demand.answer (settings : Settings) (result : ServiceResult) : Demand → ApiAnswer
  | .health =>
    ⟨200, some (.obj [("status", .str "ok"), ("service", .str settings.appName)])⟩
  | .settings => ⟨200, some settings.answer⟩
  | .record _ => .data 201 result.data
  | .query .. | .sync _ => .data 200 result.data
  | .actions request => .data 200 (.obj [("accepted", .ofNat request.actions.length)])
  | .clearCache => ⟨204, none⟩

namespace ApiRequest

/-- The path of a request as reports show it: up to the first mark of a query or a fragment, and
without tabs and line breaks. -/
def shownPath (request : ApiRequest) : String :=
  let front := request.path.toList.takeWhile fun c => c != '?' && c != '#'
  String.ofList (front.filter fun c => c != '\t' && c != '\n' && c != '\r')

/-- The answer to a request that fails unforeseen, and the report on it. -/
def unforeseen (request : ApiRequest) : ApiAnswer × List LogEntry :=
  (.unforeseen, [.error component ("Unhandled error: path=" ++ request.shownPath)])

/-- An answer with the reports on its request. If it cannot go out, the request fails unforeseen
after all. -/
def checked (request : ApiRequest) (answer : ApiAnswer) (entries : List LogEntry) :
    ApiAnswer × List LogEntry :=
  if answer.isSendable then (answer, entries)
  else
    let (answer, more) := request.unforeseen
    (answer, entries ++ more)

/-- The answer to a failed call, and the report on it. -/
def failed (request : ApiRequest) (failure : Failure) : ApiAnswer × List LogEntry :=
  match failure.code? with
  | none => request.unforeseen
  | some code =>
    let status := match failure with
      | .unknownTenant _ => 404
      | _ => 400
    request.checked
      ⟨status, some (errorBody code failure.message (some (.obj failure.details)))⟩
      [.warning component
        ("Request failed: path=" ++ request.shownPath ++ " error=" ++ failure.message)]

/-- The answer to a refused request, and the report if it cannot go out. -/
def refused (request : ApiRequest) (refusal : Refusal) : ApiAnswer × List LogEntry :=
  request.checked refusal.answer []

/-- The answer to a request whose demand has had an outcome, and the reports on it. -/
def concluded (settings : Settings) (request : ApiRequest) (demand : Demand) :
    Except Failure ServiceResult → ApiAnswer × List LogEntry
  | .ok result => request.checked (demand.answer settings result) []
  | .error failure => request.failed failure

/-- What is sent of an answer: no body where only the head is asked for. -/
def sent (request : ApiRequest) (answer : ApiAnswer) : ApiAnswer :=
  if request.method = "HEAD" then { answer with body? := none } else answer

end ApiRequest

end Automation
