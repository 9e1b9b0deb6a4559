import Automation.Event.Filter
import Automation.Failure

/-!
# The table of events

Events kept as rows of a database table. A row holds its subject as a text and its time on the
clock of Greenwich, without an offset; an event is read back from its row. The database is taken to
keep every text as it is, also one with half of a surrogate pair, which a real one refuses.

## Main definitions

* `EventRow`, `EventTable` — the rows.
* `Disruption` — the point at which the database fails.
* `EventTable.append` — record a draft.
* `EventTable.query` — the events of a tenant that pass a filter, by time and id.
-/

namespace Automation

/-- A row; its time is in microseconds since 1970. -/
structure EventRow where
  id : Nat
  tenantId : String
  subjectId : String
  eventType : String
  payload : Json.Members
  time : Int
  deriving DecidableEq, Repr

/-- The point at which the database fails while a row is recorded: before the row is committed,
or when it is read back afterwards. -/
inductive Disruption where
  | beforeCommit
  | afterCommit
  deriving DecidableEq, Repr

/-- The rows in the order of their ids. -/
structure EventTable where
  rows : List EventRow
  deriving DecidableEq, Repr

namespace EventRow

/-- The event of a row. -/
def toEvent (row : EventRow) : Event :=
  ⟨.number row.id, row.tenantId, .text row.subjectId, row.eventType, row.payload, ⟨row.time, 0⟩⟩

/-- The row as a JSON object; its time has no offset. -/
def toJson (row : EventRow) : Json := .obj [
  ("id", .ofNat row.id),
  ("tenant_id", .str row.tenantId),
  ("subject_id", .str row.subjectId),
  ("event_type", .str row.eventType),
  ("payload", .obj row.payload),
  ("timestamp", .str (Timestamp.naiveText ⟨row.time, 0⟩))]

end EventRow

namespace EventTable

/-- The table without rows. -/
def empty : EventTable := ⟨[]⟩

/-- The id of the next row. -/
def nextId (table : EventTable) : Nat := table.rows.length + 1

/-- The time of a timestamp in a row, when the clock of Greenwich can show it. -/
def timeOf (t : Timestamp) : Except Failure Int :=
  match t.utc? with
  | some shifted => .ok shifted.instant
  | none => .error .timeOutOfRange

/-- The failure that a disruption causes. -/
def disrupted (draft : EventDraft) : Failure :=
  .notRecorded "database error" draft.tenantId draft.type

/-- Record a draft at the present time: the event read back from its row, or the failure, and the
table afterwards. -/
def append (now : Timestamp) (disruption? : Option Disruption) (draft : EventDraft)
    (table : EventTable) : Except Failure Event × EventTable :=
  match timeOf (draft.timestamp?.getD now) with
  | .error failure => (.error failure, table)
  | .ok time =>
    let row : EventRow :=
      ⟨table.nextId, draft.tenantId, draft.subjectId.toText, draft.type, draft.payload, time⟩
    match disruption? with
    | some .beforeCommit => (.error (disrupted draft), table)
    | some .afterCommit => (.error (disrupted draft), ⟨table.rows ++ [row]⟩)
    | none => (.ok row.toEvent, ⟨table.rows ++ [row]⟩)

/-- A time bound as rows are compared with it. -/
def boundOf : Option TimeBound → Except Failure (Option Int)
  | none => .ok none
  | some bound => (timeOf bound.time).map some

/-- Whether a row passes a filter whose time bounds are given separately. -/
def accepts (filter : EventFilter) (since? until? : Option Int) (row : EventRow) : Bool :=
  (match filter.subjectId? with
    | some subject => row.subjectId = subject.toText
    | none => true) &&
  (match filter.type? with
    | some type => row.eventType = type
    | none => true) &&
  (match since? with
    | some since => since ≤ row.time
    | none => true) &&
  (match until? with
    | some bound => row.time ≤ bound
    | none => true)

/-- The events of a tenant that pass a filter, by time and id. -/
def query (tenantId : String) (filter : EventFilter) (table : EventTable) :
    Except Failure (List Event) := do
  let since? ← boundOf filter.since?
  let until? ← boundOf filter.until?
  let rows := table.rows.filter fun row =>
    row.tenantId = tenantId && accepts filter since? until? row
  let sorted := rows.mergeSort fun a b => a.time < b.time || a.time = b.time && a.id ≤ b.id
  return sorted.map EventRow.toEvent

end EventTable

end Automation
