import Automation.Condition.Parser
import Automation.Policy.Action

/-!
# Policies

A tenant's rule: a pattern of event types, an optional condition, actions in their order, and a
priority. A policy whose condition document is broken is kept, with a condition that never holds,
and a warning tells what is wrong with it.

## Main definitions

* `Policy`, `Policy.ofJson`, `Policy.toJson` — a policy and its document.
* `Policy.conditionWarnings` — the warnings that reading a policy document gives.
-/

namespace Automation

open Validation

/-- A tenant's rule. -/
structure Policy where
  eventType : String
  condition? : Option Condition
  actions : List Action
  priority : Int
  deriving DecidableEq, Repr

namespace Policy

/-- The condition of a document, an invalid one if the document is broken. -/
def readCondition (document : Json) : Validated Condition :=
  match Condition.ofDocument document with
  | .ok condition => .ok condition
  | .error e => .ok (.invalid e.fault.message document)

/-- A priority; `null` is the default one. -/
def readPriority : Json → Validated Int
  | .null => .ok 0
  | value => integer value

def ofJson (document : Json) : Validated Policy :=
  record document fun fields =>
    Validated.accept Policy.mk
      |>.ap (required ["event_type"] Validation.text fields)
      |>.ap (optional ["condition"] none (nullable readCondition) fields)
      |>.ap (optional ["actions"] [] (list Action.ofJson) fields)
      |>.ap (optional ["priority"] 0 readPriority fields)

def toJson (policy : Policy) : Json := .obj [
  ("event_type", .str policy.eventType),
  ("condition", match policy.condition? with
    | some condition => condition.toDocument.finiteOrNull
    | none => .null),
  ("actions", .arr (policy.actions.map Action.toJson)),
  ("priority", .ofInt policy.priority)]

/-- The warning about a broken condition document. -/
def brokenConditionWarning (fault : Condition.ParseFault) : String :=
  "Invalid policy condition, policy will never match: " ++ fault.message

/-- The warnings that reading a policy document gives, whether or not the document is accepted. -/
def conditionWarnings (document : Json) : List String :=
  match document.get? "condition" with
  | none | some .null => []
  | some condition =>
    match Condition.ofDocument condition with
    | .ok _ => []
    | .error e => [brokenConditionWarning e.fault]

end Policy

end Automation
