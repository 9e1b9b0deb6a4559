import Automation.Json.Reader
import Automation.Text.LetterCase
import Automation.Validation.Field
import Automation.Web.Query
import Automation.Web.Url

/-!
# Requests to the service

A request names a method and a path, and may carry a query and a body. A body counts as JSON when
its content type says so; any other body is just a text.

## Main definitions

* `ApiRequest` — a request, its path and its query decoded.
* `ApiRequest.toPath` — a request to a path of the service.
* `ApiRequest.readBody` — the record in the body of a request.
* `Refusal` — why a request is refused.
-/

namespace Automation

open Validation

/-- A request to the service. -/
structure ApiRequest where
  method : String
  path : String
  query : Query
  contentType? : Option String
  body : String
  deriving DecidableEq, Repr

/-- Why a request is refused before anything is done for it: nothing is found under its path, or
not with its method, or it is found at another place; its body cannot be read; what it says breaks
rules. -/
inductive Refusal where
  | unknownPath
  | wrongMethod
  | moved
  | unreadableBody
  | invalid (issues : List Issue)
  deriving DecidableEq, Repr

/-- Type and subtype of a content type in small letters: they stand in front of its parameters,
divided by the only slash. -/
def mediaType? (contentType : String) : Option (String × String) :=
  let front := Text.trimBlanks Text.isBlank (contentType.toList.takeWhile (· != ';'))
  match (Text.lower (String.ofList front)).splitOn "/" with
  | [kind, subtype] => some (kind, subtype)
  | _ => none

namespace ApiRequest

/-- The component that reports on requests. -/
def component : String := "main"

/-- The address of the service. -/
def address : String := "http://test"

/-- The request without a body for what a text leads to from the address of the service. -/
def toPath (reference : String) : Except Url.Fault ApiRequest := do
  let base ← (← Url.read address).asBase
  let url ← base.resolve (← Url.read reference)
  let path := if url.path = "" then "/" else url.path
  return ⟨"GET", Text.spelled (Text.percentDecode path).toList, Query.read (url.query?.getD ""), none, ""⟩

/-- Whether the body is announced as JSON. -/
def carriesJson (request : ApiRequest) : Bool :=
  match request.contentType?.bind mediaType? with
  | some (kind, subtype) => kind = "application" && (subtype = "json" || subtype.endsWith "+json")
  | none => false

/-- The part of a request that an issue lies in. -/
def bodyPart : Step := .field "body"

/-- The document in the body, if there is a body. -/
def document? (request : ApiRequest) : Except Refusal (Option Json) :=
  if request.body = "" then .ok none
  else if request.carriesJson then
    match Json.decode? request.body with
    | none => .error .unreadableBody
    | some text =>
      match Json.readChars text.toList with
      | .ok value => .ok (some value)
      | .error (.malformed _ left) =>
        let offset := (Json.seenPoints text left).length
        .error (.invalid [⟨[bodyPart, .position offset], .malformedJson, .obj []⟩])
      | .error (.integerTooLong _) => .error .unreadableBody
  else .ok (some (.str request.body))

/-- The record in the body. -/
def readBody {α : Type} (request : ApiRequest) (read : Json → Validated α) :
    Except Refusal α := do
  let result : Validated α := match ← request.document? with
    | some document => read document
    | none => Validated.refuse .missing .null
  (result.under bodyPart).mapError .invalid

end ApiRequest

end Automation
