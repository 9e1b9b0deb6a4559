import Automation.Event.Journal
import Automation.Event.Table

/-!
# Event stores

Where events are recorded: in a journal in memory or in a table of a database. Both only ever
append and read.

## Main definitions

* `StoreBackend` — the kinds of stores and their names.
* `EventStore.append`, `EventStore.query` — recording and reading, whichever the kind.
-/

namespace Automation

/-- The kinds of event stores. -/
inductive StoreBackend where
  | memory
  | database
  deriving DecidableEq, Repr

/-- The kind of store of a name in settings. -/
def StoreBackend.ofName? (name : String) : Option StoreBackend :=
  if name = "memory" then some .memory
  else if name = "sql" then some .database
  else none

/-- A store of events. A database can be about to fail while the next event is recorded. -/
inductive EventStore where
  | memory (journal : Journal)
  | database (table : EventTable) (disruption? : Option Disruption)
  deriving DecidableEq, Repr

namespace EventStore

/-- The empty store of a kind. -/
def empty : StoreBackend → EventStore
  | .memory => .memory .empty
  | .database => .database .empty none

/-- Record a draft at the present time. -/
def append (now : Timestamp) (draft : EventDraft) : EventStore → Except Failure Event × EventStore
  | .memory journal =>
    let (event, journal) := journal.append now draft
    (.ok event, .memory journal)
  | .database table disruption? =>
    let (result, table) := table.append now disruption? draft
    let left := match result with
      | .error .timeOutOfRange => disruption?
      | _ => none
    (result, .database table left)

/-- The events of a tenant that pass a filter, by time. -/
def query (tenantId : String) (filter : EventFilter) : EventStore → Except Failure (List Event)
  | .memory journal => .ok (journal.query tenantId filter)
  | .database table _ => table.query tenantId filter

/-- The store whose database fails while the next event is recorded. -/
def disrupt (disruption : Disruption) : EventStore → EventStore
  | .memory journal => .memory journal
  | .database table _ => .database table (some disruption)

/-- The rows of a database; memory has none. -/
def rows : EventStore → List EventRow
  | .memory _ => []
  | .database table _ => table.rows

end EventStore

end Automation
