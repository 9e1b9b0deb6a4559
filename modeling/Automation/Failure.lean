import Automation.Number.Arithmetic
import Automation.Platform.Address
import Automation.Validation.Report
import Automation.Web.Message

/-!
# Failures

Everything that an operation of the service can fail with, as causes. Each cause has one message;
those that the service itself defines have a code as well, under which callers and records of
failed policies refer to them.

## Main definitions

* `ErrorCode` — the codes.
* `PlatformError` — what went wrong in a call of the messaging platform.
* `Failure`, `Failure.message`, `Failure.code?` — the causes, their messages and codes.
-/

namespace Automation

/-- The codes of errors. -/
inductive ErrorCode where
  | validation
  | missingField
  | invalidTenant
  | messaging
  | eventStore
  | policyExecution
  | internal
  deriving DecidableEq, Repr

/-- The name of a code. -/
def ErrorCode.name : ErrorCode → String
  | .validation => "ERR_VALIDATION"
  | .missingField => "ERR_MISSING_FIELD"
  | .invalidTenant => "ERR_INVALID_TENANT"
  | .messaging => "ERR_MESSAGING_API"
  | .eventStore => "ERR_EVENT_STORE"
  | .policyExecution => "ERR_POLICY_EXEC"
  | .internal => "ERR_INTERNAL"

/-- An error of the messaging platform: a message, the status of the response if there was one,
and more about the call. -/
structure PlatformError where
  message : String
  status? : Option Int
  about : Json.Members
  deriving DecidableEq, Repr

/-- The details of an error of the messaging platform; the status is among them. -/
def PlatformError.details (e : PlatformError) : Json.Members :=
  match e.status? with
  | some status => Json.Members.set e.about "status" (.ofInt status)
  | none => e.about

/-- Why an operation fails. -/
inductive Failure where
  /-- No tenant has the id. -/
  | unknownTenant (tenantId : String)
  /-- A call of the messaging platform went wrong. -/
  | platform (e : PlatformError)
  /-- The store could not record an event. -/
  | notRecorded (detail tenantId eventType : String)
  /-- An id addresses no conversation. -/
  | invalidConversation (e : Platform.InvalidConversation)
  /-- A delay between attempts could not be computed. -/
  | delay (fault : ArithmeticFault)
  /-- A request body holds a number that JSON cannot express. -/
  | unwritableBody
  /-- A text that should be a URL is none. -/
  | badUrl (fault : Url.Fault)
  /-- A text to be sent holds half of a surrogate pair. -/
  | unencodable (fault : Text.EncodingFault)
  /-- A URL whose host cannot be named in a request. -/
  | badHost (fault : HostFault)
  /-- A token that cannot be sent. -/
  | badToken (fault : Text.EncodingFault)
  /-- An answer came from a URL that says nothing about the protocol. -/
  | unknownProtocol (url : String)
  /-- A webhook answered with a status other than success. -/
  | webhookStatus (status : Int) (url : String)
  /-- A webhook could not be reached. -/
  | webhookUnreachable (message : String)
  /-- Attributes to write are no object. -/
  | attributesNotObject
  /-- The id of an agent is a text that spells no integer. -/
  | agentText (text : String) (fault : Text.IntegerFault)
  /-- The id of an agent is a number without an integer part. -/
  | agentNumber (fault : ArithmeticFault)
  /-- The id of an agent is neither a text nor a number. -/
  | agentKind (value : Json)
  /-- A time is out of the calendar once it is moved to Greenwich. -/
  | timeOutOfRange
  /-- Something plugged into the service failed with a message of its own. -/
  | external (message : String)
  deriving DecidableEq, Repr

namespace Failure

/-- The message about a failure. -/
def message : Failure → String
  | .unknownTenant tenantId => "Tenant not found: " ++ tenantId
  | .platform e => e.message
  | .notRecorded detail _ _ => "Failed to record event: " ++ detail
  | .invalidConversation e => e.message
  | .delay fault => fault.message
  | .unwritableBody => "Out of range float values are not JSON compliant"
  | .badUrl fault => fault.message
  | .unencodable fault => fault.message
  | .badHost fault => fault.message
  | .badToken fault => fault.message
  | .unknownProtocol url => "unknown url type: " ++ Text.quoted url
  | .webhookStatus status url =>
    s!"{statusClass status} '{status} {reasonPhrase status}' for url '{url}'"
  | .webhookUnreachable message => message
  | .attributesNotObject => "'attributes' must be an object"
  | .agentText text fault => fault.message text
  | .agentNumber fault => fault.message
  | .agentKind value =>
    "int() argument must be a string, a bytes-like object or a real number, not '" ++
      value.kindName ++ "'"
  | .timeOutOfRange => "date value out of range"
  | .external message => message

/-- The code of a failure that the service defines. -/
def code? : Failure → Option ErrorCode
  | .unknownTenant _ => some .invalidTenant
  | .platform _ => some .messaging
  | .notRecorded .. => some .eventStore
  | .invalidConversation _ | .delay _ | .unwritableBody | .badUrl _ | .unencodable _ | .badHost _
  | .badToken _ | .unknownProtocol _ | .webhookStatus .. | .webhookUnreachable _ | .attributesNotObject
  | .agentText .. | .agentNumber _ | .agentKind _ | .timeOutOfRange | .external _ => none

/-- More about a failure that has a code. -/
def details : Failure → Json.Members
  | .unknownTenant tenantId => [("tenant_id", .str tenantId)]
  | .platform e => e.details
  | .notRecorded _ tenantId eventType =>
    [("tenant_id", .str tenantId), ("event_type", .str eventType)]
  | .invalidConversation _ | .delay _ | .unwritableBody | .badUrl _ | .unencodable _ | .badHost _
  | .badToken _ | .unknownProtocol _ | .webhookStatus .. | .webhookUnreachable _ | .attributesNotObject
  | .agentText .. | .agentNumber _ | .agentKind _ | .timeOutOfRange | .external _ => []

/-- Nothing, unless a value cannot go out as the body of a request. -/
def checkBody (body : Json) : Except Failure Unit :=
  if body.hasUnwritable then .error .unwritableBody
  else (Text.Codec.utf8.check (body.write .compact)).mapError .unencodable

end Failure

end Automation
