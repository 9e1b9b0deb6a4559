import Automation.Policy.Basic

/-!
# Tenants

A tenant's configuration: who it is, its account on the messaging platform, and its policies.

## Main definitions

* `Credentials` — an account on the messaging platform.
* `Tenant`, `Tenant.ofJson`, `Tenant.toJson` — a configuration and its document.
-/

namespace Automation

open Validation

/-- An account on the messaging platform. -/
structure Credentials where
  apiUrl : String
  apiToken : String
  accountId : Int
  deriving DecidableEq, Repr, Inhabited

namespace Credentials

def ofJson (document : Json) : Validated Credentials :=
  record document fun fields =>
    Validated.accept Credentials.mk
      |>.ap (required ["api_url"] Validation.text fields)
      |>.ap (required ["api_token"] Validation.text fields)
      |>.ap (required ["account_id"] integer fields)

def toJson (credentials : Credentials) : Json := .obj [
  ("api_url", .str credentials.apiUrl),
  ("api_token", .str credentials.apiToken),
  ("account_id", .ofInt credentials.accountId)]

end Credentials

/-- A tenant's configuration. -/
structure Tenant where
  id : String
  name : String
  messaging : Credentials
  policies : List Policy
  deriving DecidableEq, Repr, Inhabited

namespace Tenant

def ofJson (document : Json) : Validated Tenant :=
  record document fun fields =>
    Validated.accept Tenant.mk
      |>.ap (required ["id"] nonEmptyText fields)
      |>.ap (optional ["name"] "" Validation.text fields)
      |>.ap (required ["messaging"] Credentials.ofJson fields)
      |>.ap (optional ["policies"] [] (list Policy.ofJson) fields)

def toJson (tenant : Tenant) : Json := .obj [
  ("id", .str tenant.id),
  ("name", .str tenant.name),
  ("messaging", tenant.messaging.toJson),
  ("policies", .arr (tenant.policies.map Policy.toJson))]

/-- The warnings that reading a configuration gives, whether or not it is accepted. -/
def conditionWarnings (document : Json) : List String :=
  match document.get? "policies" with
  | some (.arr policies) => policies.flatMap Policy.conditionWarnings
  | _ => []

end Tenant

end Automation
