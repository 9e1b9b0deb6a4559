import Automation.Log.Setup
import Automation.Service
import Automation.Tenant.Bootstrap

/-!
# The service of the settings

How the service starts when only settings are given: with the tenant that they describe, the store
that they name and their retry options.

## Main definitions

* `BootFault` — why the service cannot start.
* `LogSetup.configureIn` — one attempt to configure the log in an environment.
* `Settings.adopt` — the settings of an environment, and the log set up by them.
* `Service.boot` — the service of an environment, and its settings.
-/

namespace Automation

/-- Why the service cannot start. -/
inductive BootFault where
  | settings (issues : List Validation.Issue)
  | log (fault : LogSetupFault)
  | policies (fault : PolicyFileFault)
  | unknownStore (name : String)
  deriving DecidableEq, Repr

/-- The message about a service that cannot start. -/
def BootFault.message : BootFault → String
  | .settings issues => Validation.report "Settings" issues
  | .log fault => fault.message
  | .policies fault => fault.message
  | .unknownStore name => "Unknown event store backend: " ++ name

/-- Configure the log in an environment, unless that has happened already: its state afterwards, and
what stands in the way. The settings are only read when they are needed. -/
def LogSetup.configureIn (environment : Environment) (argument : Json) (setup : LogSetup) :
    LogSetup × Option BootFault :=
  if setup.configured then (setup, none)
  else
    match Settings.load environment [] with
    | .error issues => (setup, some (.settings issues))
    | .ok settings =>
      let (after, fault?) := setup.configure settings.logLevel argument
      (after, fault?.map .log)

/-- The settings of an environment, with which the log can be set up. -/
def Settings.adopt (environment : Environment) : Except BootFault Settings := do
  let settings ← (Settings.load environment []).mapError .settings
  match (LogSetup.initial.configure settings.logLevel .null).2 with
  | some fault => .error (.log fault)
  | none => return settings

/-- The kind of store that settings name, in any letter case. -/
def StoreBackend.ofSettings (settings : Settings) : Except BootFault StoreBackend :=
  let name := Text.lower settings.storeBackend
  match ofName? name with
  | some backend => .ok backend
  | none => .error (.unknownStore name)

namespace Service

/-- The service of settings, given the files that can be read. -/
def ofSettings (files : Files) (settings : Settings) :
    Except BootFault Service := do
  let tenant ← (Tenant.ofSettings files settings).mapError .policies
  let backend ← StoreBackend.ofSettings settings
  return .initial [(tenant.id, tenant)] backend

/-- The service of an environment, and its settings. -/
def boot (files : Files) (environment : Environment) :
    Except BootFault (Service × Settings) := do
  let settings ← (Settings.load environment []).mapError .settings
  let service ← ofSettings files settings
  return (service, settings)

end Service

end Automation
