import Automation.Json.Writer
import Automation.Text.Codec
import Automation.Web.Url

/-!
# HTTP messages

Requests that carry JSON, the responses to them, and the names of the response statuses.

## Main definitions

* `HttpRequest`, `HttpResponse` — what is sent and what comes back.
* `Url.hostHeader` — how a request names the host it is for.
* `Exchange` — how sending a request ends.
* `reasonPhrase` — the name of a status.
-/

namespace Automation

/-- A request with an optional JSON body. -/
structure HttpRequest where
  method : String
  url : Url
  token? : Option String
  contentType? : Option String
  body? : Option Json
  deriving DecidableEq, Repr

/-- Why a request cannot name its host: the name stands for nothing, or it is not ASCII. -/
inductive HostFault where
  | name (fault : HostName.Fault)
  | text (fault : Text.EncodingFault)
  deriving DecidableEq, Repr

/-- The message about a host that cannot be named. -/
def HostFault.message : HostFault → String
  | .name fault => fault.message
  | .text fault => fault.message

/-- How a request names the host that it is for. A name in ASCII form has to stand for one. -/
def Url.hostHeader (url : Url) : Except HostFault String := do
  if HostName.announcement.isPrefixOf url.host.toList then
    let _ ← (HostName.decode url.host).mapError HostFault.name
  let _ ← (Text.Codec.ascii.check url.hostAndPort).mapError HostFault.text
  return url.hostAndPort

/-- The document of a request. -/
def HttpRequest.toJson (request : HttpRequest) : Json :=
  let text : Option String → Json
    | some s => .str s
    | none => .null
  .obj [("method", .str request.method), ("url", .str request.url.text),
    ("token", text request.token?), ("content_type", text request.contentType?),
    ("body", request.body?.getD .null), ("has_body", .bool request.body?.isSome)]

/-- A response: its status and the text of its body. -/
structure HttpResponse where
  status : Int
  body : String
  deriving DecidableEq, Repr, Inhabited

/-- A response with a JSON body. -/
def HttpResponse.json (status : Int) (value : Json) : HttpResponse :=
  ⟨status, value.write .compact⟩

/-- How sending a request ends: with a response, or with a message about why none came. -/
inductive Exchange where
  | answered (response : HttpResponse)
  | broken (message : String)
  deriving DecidableEq, Repr, Inhabited

namespace HttpResponse

/-- Whether the status reports success. -/
def isSuccess (response : HttpResponse) : Bool := 200 ≤ response.status && response.status ≤ 299

/-- Whether the status reports an error of the client or of the server. -/
def isError (response : HttpResponse) : Bool := 400 ≤ response.status && response.status ≤ 599

end HttpResponse

/-- The names of the statuses. -/
def reasonPhrases : List (Int × String) := [
  (100, "Continue"), (101, "Switching Protocols"), (102, "Processing"), (103, "Early Hints"),
  (200, "OK"), (201, "Created"), (202, "Accepted"), (203, "Non-Authoritative Information"),
  (204, "No Content"), (205, "Reset Content"), (206, "Partial Content"), (207, "Multi-Status"),
  (208, "Already Reported"), (226, "IM Used"), (300, "Multiple Choices"),
  (301, "Moved Permanently"), (302, "Found"), (303, "See Other"), (304, "Not Modified"),
  (305, "Use Proxy"), (307, "Temporary Redirect"), (308, "Permanent Redirect"),
  (400, "Bad Request"), (401, "Unauthorized"), (402, "Payment Required"), (403, "Forbidden"),
  (404, "Not Found"), (405, "Method Not Allowed"), (406, "Not Acceptable"),
  (407, "Proxy Authentication Required"), (408, "Request Timeout"), (409, "Conflict"),
  (410, "Gone"), (411, "Length Required"), (412, "Precondition Failed"),
  (413, "Request Entity Too Large"), (414, "Request-URI Too Long"),
  (415, "Unsupported Media Type"), (416, "Requested Range Not Satisfiable"),
  (417, "Expectation Failed"), (418, "I'm a teapot"), (421, "Misdirected Request"),
  (422, "Unprocessable Entity"), (423, "Locked"), (424, "Failed Dependency"), (425, "Too Early"),
  (426, "Upgrade Required"), (428, "Precondition Required"), (429, "Too Many Requests"),
  (431, "Request Header Fields Too Large"), (451, "Unavailable For Legal Reasons"),
  (500, "Internal Server Error"), (501, "Not Implemented"), (502, "Bad Gateway"),
  (503, "Service Unavailable"), (504, "Gateway Timeout"), (505, "HTTP Version Not Supported"),
  (506, "Variant Also Negotiates"), (507, "Insufficient Storage"), (508, "Loop Detected"),
  (510, "Not Extended"), (511, "Network Authentication Required")]

/-- The name of a status; a status without a name has none. -/
def reasonPhrase (status : Int) : String := (reasonPhrases.lookup status).getD ""

/-- What a status outside of success is called, by its first digit. -/
def statusClass (status : Int) : String :=
  if status / 100 = 1 then "Informational response"
  else if status / 100 = 3 then "Redirect response"
  else if status / 100 = 4 then "Client error"
  else if status / 100 = 5 then "Server error"
  else "Invalid status code"

end Automation
