import Automation.Retry.Basic
import Automation.Text.LetterCase
import Automation.Validation.Field
import Automation.Validation.Report

/-!
# Settings

How the service is configured: by arguments given to it, by its environment, and by defaults, in
that order of preference. The database is never chosen by an argument: it is the test database
when the environment is named `test`, and the configured one otherwise.

## Main definitions

* `Environment` — the variables of a process.
* `Settings`, `Settings.load` — the settings, and how they come about.
* `Settings.retryOptions` — the retry options among them.
-/

namespace Automation

open Validation

/-- The variables of a process, in the order in which they were set. -/
abbrev Environment := List (String × String)

namespace Environment

/-- The value of the variable of exactly this name. -/
def named? (environment : Environment) (name : String) : Option String :=
  List.lookup name environment

/-- The value of the last variable of this name in any letter case. -/
def anyCase? (environment : Environment) (name : String) : Option String :=
  (environment.reverse.find? fun entry => Text.lower entry.1 = Text.lower name).map Prod.snd

end Environment

/-- The configuration of the service. -/
structure Settings where
  appName : String
  databaseUrl : String
  environment : String
  logLevel : String
  port : Int
  storeBackend : String
  retryMaxAttempts : Int
  retryDelayMs : Int
  retryMultiplier : Binary64
  retryMaxDelayMs : Int
  platformTimeout : Binary64
  tenantId : String
  tenantName : String
  platformUrl : String
  platformToken : String
  platformAccount : Int
  policiesFile? : Option String
  deriving DecidableEq, Repr

namespace Settings

/-- The names that set the environment's name; the first one present counts. -/
def environmentNames : List String := ["ENV", "ENVIRONMENT"]

/-- The names of the settings, each with its alternatives. -/
def names : List (List String) := [
  ["app_name"], ["database_url"], environmentNames, ["log_level"], ["port"],
  ["event_store_backend"], ["retry_max_attempts"], ["retry_delay_ms"],
  ["retry_backoff_multiplier"], ["retry_max_delay_ms"], ["messaging_timeout_seconds"],
  ["tenant_id"], ["tenant_name"], ["chatwoot_base_url"], ["chatwoot_api_token"],
  ["chatwoot_account_id"], ["tenant_policies_file"]]

/-- The settings that the environment holds, each under its first name. -/
def fromEnvironment (environment : Environment) : Json.Members :=
  names.filterMap fun choices => choices.findSome? fun name =>
    (environment.anyCase? name).map fun value => (choices.headD "", .str value)

/-- Whether two names differ in letter case only. -/
def sameName (a b : String) : Bool := Text.lower a = Text.lower b

/-- The arguments that are settings, in any letter case, each under its first name; of several
arguments for one setting, the first name comes first, then the first argument. -/
def knownArguments (arguments : Json.Members) : Json.Members :=
  names.filterMap fun choices => choices.findSome? fun name =>
    (arguments.find? fun argument => sameName argument.1 name).map fun found =>
      (choices.headD "", found.2)

/-- The arguments that are no settings. -/
def unknownArguments (arguments : Json.Members) : Json.Members :=
  arguments.filter fun argument => !names.flatten.any (sameName argument.1)

/-- The values of all sources under their names; an argument replaces a variable. -/
def gathered (environment : Environment) (arguments : Json.Members) : Json.Members :=
  (knownArguments arguments ++ unknownArguments arguments).foldl
    (fun members (name, value) => members.set name value) (fromEnvironment environment)

/-- The database when the environment is not named `test`. -/
def standardDatabase : String := "sqlite:///./automation_events.db"

/-- The database when the environment is named `test`. -/
def testDatabase : String := "sqlite://"

/-- The database of an environment of the given name. -/
def databaseUrlOf (environment : Environment) (name : String) : String :=
  if Text.lower name = "test" then (environment.named? "TEST_DATABASE_URL").getD testDatabase
  else (environment.named? "DATABASE_URL").getD standardDatabase

/-- The name that decides on the database: the variable `ENV`. -/
def databaseEnvironment (environment : Environment) : String :=
  (environment.named? "ENV").getD "development"

/-- The names that the settings among some values are read from. -/
def usedNames (values : Json.Members) : List String :=
  names.filterMap fun choices => (present? choices values).map Prod.fst

/-- An issue for every value that no setting is read from. -/
def unknownValues (values : Json.Members) : Validated Unit :=
  let unknown := values.filter fun value => !(usedNames values).contains value.1
  if unknown.isEmpty then .ok ()
  else .error (unknown.map fun (name, value) => ⟨[.field name], .unknownField, value⟩)

/-- The settings that values spell. -/
def ofMembers (values : Json.Members) : Validated Settings :=
  Validated.accept Settings.mk
    |>.ap (optional ["app_name"] "conversation-automation" text values)
    |>.ap (optional ["database_url"] standardDatabase text values)
    |>.ap (optional environmentNames "development" text values)
    |>.ap (optional ["log_level"] "INFO" text values)
    |>.ap (optional ["port"] 8000 integer values)
    |>.ap (optional ["event_store_backend"] "memory" text values)
    |>.ap (optional ["retry_max_attempts"] 3 (integerAtLeast 1) values)
    |>.ap (optional ["retry_delay_ms"] 1000 (integerAtLeast 0) values)
    |>.ap (optional ["retry_backoff_multiplier"] (.ofInt 2) (floatAtLeast 1) values)
    |>.ap (optional ["retry_max_delay_ms"] 10000 (integerAtLeast 0) values)
    |>.ap (optional ["messaging_timeout_seconds"] (.ofInt 30) float values)
    |>.ap (optional ["tenant_id"] "default" text values)
    |>.ap (optional ["tenant_name"] "Default Tenant" text values)
    |>.ap (optional ["chatwoot_base_url"] "https://app.chatwoot.com" text values)
    |>.ap (optional ["chatwoot_api_token"] "" text values)
    |>.ap (optional ["chatwoot_account_id"] 0 integer values)
    |>.ap (optional ["tenant_policies_file"] none (nullable text) values)

/-- The settings for an environment and arguments. -/
def load (environment : Environment) (arguments : Json.Members) : Validated Settings :=
  let database := databaseUrlOf environment (databaseEnvironment environment)
  let values := (gathered environment arguments).set "database_url" (.str database)
  let settings := (ofMembers values).map fun settings (_ : Unit) => settings
  Validated.ap settings (unknownValues values)

/-- The retry options. -/
def retryOptions (settings : Settings) : RetryOptions :=
  ⟨.number (.int settings.retryMaxAttempts), .number (.int settings.retryDelayMs),
    .num (.float settings.retryMultiplier), .number (.int settings.retryMaxDelayMs)⟩

/-- All settings under their names. -/
def toJson (settings : Settings) : Json := .obj [
  ("app_name", .str settings.appName),
  ("database_url", .str settings.databaseUrl),
  ("environment", .str settings.environment),
  ("log_level", .str settings.logLevel),
  ("port", .ofInt settings.port),
  ("event_store_backend", .str settings.storeBackend),
  ("retry_max_attempts", .ofInt settings.retryMaxAttempts),
  ("retry_delay_ms", .ofInt settings.retryDelayMs),
  ("retry_backoff_multiplier", .num (.float settings.retryMultiplier)),
  ("retry_max_delay_ms", .ofInt settings.retryMaxDelayMs),
  ("messaging_timeout_seconds", .num (.float settings.platformTimeout)),
  ("tenant_id", .str settings.tenantId),
  ("tenant_name", .str settings.tenantName),
  ("chatwoot_base_url", .str settings.platformUrl),
  ("chatwoot_api_token", .str settings.platformToken),
  ("chatwoot_account_id", .ofInt settings.platformAccount),
  ("tenant_policies_file", match settings.policiesFile? with
    | some path => .str path
    | none => .null)]

end Settings

end Automation
