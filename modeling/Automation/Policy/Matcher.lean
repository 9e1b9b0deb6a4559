import Automation.Condition.Evaluation
import Automation.Event.Basic
import Automation.Policy.Basic

/-!
# Matching policies

Which policies apply to an event, and the actions they ask for: applicable policies come by
priority, the highest first and equal ones in their configured order, each with its actions in
their own order.

## Main definitions

* `Policy.typeMatches` — whether an event type fits a pattern.
* `Policy.applies` — whether a policy applies to an event.
* `Policy.matchActions` — the actions of all applicable policies.
-/

namespace Automation.Policy

/-- Whether an event type fits a pattern: the same text, or anything that starts with the part of
the pattern in front of a final star. -/
def typeMatches (eventType pattern : String) : Bool :=
  match pattern.toList.reverse with
  | '*' :: front => front.reverse.isPrefixOf eventType.toList
  | _ => eventType = pattern

/-- Whether a policy applies to an event. -/
def applies (policy : Policy) (event : Event) : Bool :=
  typeMatches event.type policy.eventType &&
    match policy.condition? with
    | none => true
    | some condition => condition.evaluate event.root

/-- The applicable policies, the highest priority first, equal ones in their given order. -/
def applicable (event : Event) (policies : List Policy) : List Policy :=
  (policies.filter (·.applies event)).mergeSort fun p q => q.priority ≤ p.priority

/-- The actions of all applicable policies. -/
def matchActions (event : Event) (policies : List Policy) : List Action :=
  (applicable event policies).flatMap Policy.actions

/-- The report on a matching. -/
def matchReport (event : Event) (policies : List Policy) : String :=
  s!"Policy matching completed: event_type={event.type} " ++
    s!"matched_policies={(applicable event policies).length} " ++
    s!"actions={(matchActions event policies).length}"

end Automation.Policy
