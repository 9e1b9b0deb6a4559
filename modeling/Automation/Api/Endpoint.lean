import Automation.Api.Request

/-!
# Endpoints

Where the service can be reached: each endpoint has a path and one method. A path that leads
nowhere, but would without or with a slash at its end, is answered with a redirection.

## Main definitions

* `Endpoint` — the endpoints.
* `Endpoint.find` — the endpoint of a request.
-/

namespace Automation

/-- The endpoints. -/
inductive Endpoint where
  | health
  | settings
  | record
  | query (tenantId : String)
  | sync
  | actions
  | clearCache
  deriving DecidableEq, Repr

namespace Endpoint

/-- The method that an endpoint answers. -/
def method : Endpoint → String
  | .health | .settings | .query _ => "GET"
  | .record | .sync | .actions => "POST"
  | .clearCache => "DELETE"

/-- The endpoints with a fixed path. -/
def fixedPaths : List (String × Endpoint) := [
  ("/health", .health), ("/system/settings", .settings), ("/events", .record), ("/sync", .sync),
  ("/actions", .actions), ("/sync/cache", .clearCache)]

/-- The path below which each tenant has its events. -/
def eventsPath : String := "/events/"

/-- The endpoint with the path of one tenant's events: one segment that is not empty. -/
def queryOf? (path : String) : Option Endpoint :=
  let tenantId := path.toList.drop eventsPath.length
  if eventsPath.toList.isPrefixOf path.toList ∧ tenantId ≠ [] ∧ ¬ tenantId.contains '/' then
    some (.query (String.ofList tenantId))
  else none

/-- A path without the line feed that may end it. -/
def withoutLineFeed (path : String) : String :=
  if path.toList.getLast? = some '\n' then String.ofList path.toList.dropLast else path

/-- The endpoint under a path. No path leads to two. -/
def at? (path : String) : Option Endpoint :=
  fixedPaths.lookup (withoutLineFeed path) <|> queryOf? path

/-- The path with its slashes at the end removed, or with a slash added if it has none. -/
def otherPath (path : String) : String :=
  if path.toList.getLast? = some '/' then
    String.ofList (path.toList.reverse.dropWhile (· = '/')).reverse
  else path ++ "/"

/-- The endpoint of a method and a path. -/
def find (method path : String) : Except Refusal Endpoint :=
  match at? path with
  | some endpoint => if endpoint.method = method then .ok endpoint else .error .wrongMethod
  | none => .error (if path ≠ "/" ∧ (at? (otherPath path)).isSome then .moved else .unknownPath)

end Endpoint

end Automation
