import Automation.Json.Display
import Automation.Text.LetterCase

/-!
# Setting up the log

The log is configured once, at a level that is asked for or that the settings name. The handler is
attached before the level is looked at, so an unknown level leaves a handler behind.

## Main definitions

* `LogSetup` — whether the log is configured, and its level and handlers.
* `LogSetup.configure` — one attempt to configure it.
* `loggerName` — the full name of a component's logger.
-/

namespace Automation

/-- The state of the log. -/
structure LogSetup where
  configured : Bool
  level : String
  handlers : Nat
  deriving DecidableEq, Repr

/-- Why the log cannot be configured. -/
inductive LogSetupFault where
  | unknownLevel (name : String)
  | levelKind (value : Json)
  deriving DecidableEq, Repr

/-- The message about a fault. -/
def LogSetupFault.message : LogSetupFault → String
  | .unknownLevel name => "Unknown level: " ++ Text.quoted name
  | .levelKind value => s!"'{value.kindName}' object has no attribute 'upper'"

namespace LogSetup

/-- The log before anything is configured. -/
def initial : LogSetup := ⟨false, "WARNING", 0⟩

/-- The names of levels, each with the name that the level is shown by. -/
def levelNames : List (String × String) := [
  ("CRITICAL", "CRITICAL"), ("FATAL", "CRITICAL"), ("ERROR", "ERROR"), ("WARN", "WARNING"),
  ("WARNING", "WARNING"), ("INFO", "INFO"), ("DEBUG", "DEBUG"), ("NOTSET", "NOTSET")]

/-- The name of the level that is wanted: the argument unless it counts as false, then the one of
the settings unless it is empty. -/
def wanted (argument : Json) (settingsLevel : String) : Except LogSetupFault String :=
  if argument.isTruthy then
    match argument with
    | .str name => .ok (Text.upper name)
    | other => .error (.levelKind other)
  else if settingsLevel = "" then .ok "INFO"
  else .ok (Text.upper settingsLevel)

/-- Configure the log, unless that has happened already: its state afterwards, and the fault. -/
def configure (settingsLevel : String) (argument : Json) (setup : LogSetup) :
    LogSetup × Option LogSetupFault :=
  if setup.configured then (setup, none)
  else
    match wanted argument settingsLevel with
    | .error fault => (setup, some fault)
    | .ok name =>
      let attached := { setup with handlers := setup.handlers + 1 }
      match levelNames.lookup name with
      | none => (attached, some (.unknownLevel name))
      | some level => ({ attached with configured := true, level }, none)

end LogSetup

/-- The full name of a component's logger, of the whole service when it has no name. -/
def loggerName (component : String) : String :=
  if component = "" then "automation" else "automation." ++ component

end Automation
