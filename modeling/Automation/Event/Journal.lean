import Automation.Event.Filter

/-!
# The journal of events

Events kept in memory in the order in which they were recorded. Ids count from one; an event is
kept exactly as submitted, with the present time when it came without one.

## Main definitions

* `Journal.append` — record a draft.
* `Journal.query` — the events of a tenant that pass a filter, by time.
-/

namespace Automation

/-- Events in the order in which they were recorded. -/
structure Journal where
  events : List Event
  deriving DecidableEq, Repr

namespace Journal

/-- The journal without events. -/
def empty : Journal := ⟨[]⟩

/-- The id of the next event. -/
def nextId (journal : Journal) : Nat := journal.events.length + 1

/-- The event that a draft becomes. -/
def eventOf (id : Nat) (now : Timestamp) (draft : EventDraft) : Event :=
  ⟨.number id, draft.tenantId, draft.subjectId, draft.type, draft.payload,
    draft.timestamp?.getD now⟩

/-- Record a draft at the present time. -/
def append (now : Timestamp) (draft : EventDraft) (journal : Journal) : Event × Journal :=
  let event := eventOf journal.nextId now draft
  (event, ⟨journal.events ++ [event]⟩)

/-- The events of a tenant that pass a filter, by time; of two at one time, the one recorded first
comes first. -/
def query (tenantId : String) (filter : EventFilter) (journal : Journal) : List Event :=
  (journal.events.filter fun event => event.tenantId = tenantId && filter.accepts event).mergeSort
    fun a b => a.timestamp.instant ≤ b.timestamp.instant

end Journal

end Automation
