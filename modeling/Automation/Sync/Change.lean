import Automation.Platform.Call
import Automation.Sync.Plan

/-!
# The changes of a plan

What a plan asks for besides messages: labels to add, labels to remove and attributes to write,
each as one call, and only when there is something to change.

## Main definitions

* `Change` — one of these calls.
* `ExecutionPlan.changes` — the changes of a plan, in the order in which they are made.
* `Change.applied` — the result once a change has landed.
-/

namespace Automation

/-- A change of a conversation that a plan asks for. -/
inductive Change where
  | addLabels (labels : List String)
  | removeLabels (labels : List String)
  | writeAttributes (attributes : Json.Members)
  deriving DecidableEq, Repr

namespace Change

/-- The call that makes a change. -/
def call : Change → Platform.Call
  | .addLabels labels => .attach labels
  | .removeLabels labels => .detach labels
  | .writeAttributes attributes => .writeAttributes attributes

/-- What a change does, in words. -/
def purpose : Change → String
  | .addLabels _ => "add labels"
  | .removeLabels _ => "remove labels"
  | .writeAttributes _ => "update attributes"

/-- The result once a change has landed. -/
def applied (result : SyncResult) : Change → SyncResult
  | .addLabels labels | .removeLabels labels =>
    { result with labelsUpdated := result.labelsUpdated + labels.length }
  | .writeAttributes attributes =>
    { result with attributesUpdated := result.attributesUpdated + attributes.length }

end Change

/-- The changes of a plan, in the order in which they are made. -/
def ExecutionPlan.changes (plan : ExecutionPlan) : List Change :=
  (if plan.labels.add.isEmpty then [] else [.addLabels plan.labels.add]) ++
  (if plan.labels.remove.isEmpty then [] else [.removeLabels plan.labels.remove]) ++
  (if plan.contactAttributes.isEmpty then [] else [.writeAttributes plan.contactAttributes])

end Automation
