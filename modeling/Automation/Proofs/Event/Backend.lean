import Automation.Event.Store
import Mathlib.Data.List.Nodup
import Mathlib.Order.Defs.LinearOrder

/-!
# The backends of event stores agree

A journal keeps events as they were submitted. A table keeps rows, with the text of the subject and
the time at Greenwich, and filters and sorts them by its own rules. For times that the calendar has
at Greenwich, nobody who records and asks can tell the two apart by more than the spelling of
subjects and the clocks of times.

## Main definitions

* `Timestamp.InCalendar` — a time that the calendar has at Greenwich.
* `Event.plain` — an event up to the spelling of its subject and the clock of its time.
* `StoreCall`, `StoreAnswer`, `EventStore.answers` — what a store is asked, and what it answers.
* `StoreAnswer.Agree` — two stores have answered alike.
* `EventTable.Mirrors` — a table has recorded what a journal has recorded.

## Main statements

* `mergeSort_eq_of_increasing` — a stable sort breaks ties by what increases along the list.
* `EventTable.Mirrors.query` — a table and the journal that it mirrors give the same events.
* `EventStore.backends_agree` — the two kinds of stores answer alike.
-/

namespace Automation

/-- The calendar has the time at Greenwich: its year there is one of 1 to 9999. -/
def Timestamp.InCalendar (t : Timestamp) : Prop :=
  1 ≤ (Timestamp.mk t.instant 0).date.year ∧ (Timestamp.mk t.instant 0).date.year ≤ 9999

instance (t : Timestamp) : Decidable t.InCalendar := inferInstanceAs (Decidable (_ ∧ _))

namespace Event

/-- An event with its subject as a text and its time at Greenwich. -/
def plain (event : Event) : Event :=
  { event with
    subjectId := .text event.subjectId.toText
    timestamp := ⟨event.timestamp.instant, 0⟩ }

/-- Whether an event is no later than another. -/
def notAfter (a b : Event) : Bool := a.timestamp.instant ≤ b.timestamp.instant

end Event

/-- Whether an event is one of a tenant and passes a filter. -/
def EventFilter.selects (filter : EventFilter) (tenantId : String) (event : Event) : Bool :=
  event.tenantId = tenantId && filter.accepts event

theorem Journal.query_eq (journal : Journal) (tenantId : String) (filter : EventFilter) :
    journal.query tenantId filter =
      (journal.events.filter (filter.selects tenantId)).mergeSort Event.notAfter := rfl

/-- What a store can be asked: to record a draft at the present time, or for the events of a tenant
that pass a filter. -/
inductive StoreCall where
  | append (now : Timestamp) (draft : EventDraft)
  | query (tenantId : String) (filter : EventFilter)
  deriving DecidableEq, Repr

namespace StoreCall

/-- Whether a store is asked to record something. -/
def isAppend : StoreCall → Bool
  | .append .. => true
  | .query .. => false

/-- The calendar has all times of a call at Greenwich. -/
def InCalendar : StoreCall → Prop
  | .append now draft => (draft.timestamp?.getD now).InCalendar
  | .query _ filter => (∀ bound ∈ filter.since?, bound.time.InCalendar) ∧
      ∀ bound ∈ filter.until?, bound.time.InCalendar

instance : DecidablePred InCalendar
  | .append now draft => inferInstanceAs (Decidable (draft.timestamp?.getD now).InCalendar)
  | .query _ filter => inferInstanceAs (Decidable
      ((∀ bound ∈ filter.since?, bound.time.InCalendar) ∧
        ∀ bound ∈ filter.until?, bound.time.InCalendar))

end StoreCall

/-- What a store answers. -/
inductive StoreAnswer where
  | recorded (event : Event)
  | found (events : List Event)
  | refused (failure : Failure)
  deriving DecidableEq, Repr

namespace StoreAnswer

/-- An answer up to the spelling of subjects and the clocks of times. -/
def plain : StoreAnswer → StoreAnswer
  | .recorded event => .recorded event.plain
  | .found events => .found (events.map Event.plain)
  | .refused failure => .refused failure

/-- The id that a recorded event was given. -/
def newId? : StoreAnswer → Option Identifier
  | .recorded event => some event.id
  | .found _ | .refused _ => none

/-- The answers of two stores to the same calls agree: nothing is refused, the events recorded are
numbered from a first number on, and all events are the same and in the same order. -/
structure Agree (first : Nat) (calls : List StoreCall) (kept stored : List StoreAnswer) :
    Prop where
  granted : ∀ failure, .refused failure ∉ kept ∧ .refused failure ∉ stored
  numbered : kept.filterMap newId? =
    (List.range' first (calls.countP StoreCall.isAppend)).map fun n => .number n
  stored_numbered : stored.filterMap newId? = kept.filterMap newId?
  same : stored.map plain = kept.map plain

namespace Agree

variable {first : Nat} {calls : List StoreCall} {kept stored : List StoreAnswer}

/-- An event that both stores record under the next number stands in front of what follows. -/
theorem recorded (h : Agree (first + 1) calls kept stored) (now : Timestamp) (draft : EventDraft)
    {event : Event} (hid : event.id = .number first) :
    Agree first (.append now draft :: calls) (.recorded event :: kept)
      (.recorded event.plain :: stored) := by
  refine ⟨fun failure => by simpa using h.granted failure, ?_, ?_, ?_⟩
  · rw [List.countP_cons_of_pos rfl, List.range'_succ, List.map_cons, ← hid, ← h.numbered]
    rfl
  · exact congrArg (event.id :: ·) h.stored_numbered
  · rw [List.map_cons, List.map_cons, h.same]
    rfl

/-- Events that both stores give stand in front of what follows. -/
theorem found (h : Agree first calls kept stored) (tenantId : String) (filter : EventFilter)
    (events : List Event) :
    Agree first (.query tenantId filter :: calls) (.found events :: kept)
      (.found (events.map Event.plain) :: stored) := by
  refine ⟨fun failure => by simpa using h.granted failure, ?_, ?_, ?_⟩
  · rw [List.countP_cons_of_neg Bool.false_ne_true, ← h.numbered]
    rfl
  · exact h.stored_numbered
  · have hplain : (events.map Event.plain).map Event.plain = events.map Event.plain := by
      rw [List.map_map]
      rfl
    rw [List.map_cons, List.map_cons, h.same, plain, plain, hplain]

end Agree

end StoreAnswer

namespace EventStore

/-- What a store answers to a call, and the store afterwards. -/
def answer (store : EventStore) : StoreCall → StoreAnswer × EventStore
  | .append now draft =>
    match store.append now draft with
    | (.ok event, store) => (.recorded event, store)
    | (.error failure, store) => (.refused failure, store)
  | .query tenantId filter =>
    match store.query tenantId filter with
    | .ok events => (.found events, store)
    | .error failure => (.refused failure, store)

/-- What a store answers to calls in a row. -/
def answers (store : EventStore) : List StoreCall → List StoreAnswer
  | [] => []
  | call :: rest => (store.answer call).1 :: (store.answer call).2.answers rest

end EventStore

/-! ## Sorting -/

section Sorting

variable {α : Type} {le : α → α → Bool} {key : α → Nat} {l : List α}

theorem key_le_iff_of_mem_zipIdx (h : l.Pairwise fun a b => key a < key b) {a b : α × Nat}
    (ha : a ∈ l.zipIdx) (hb : b ∈ l.zipIdx) : a.2 ≤ b.2 ↔ key a.1 ≤ key b.1 := by
  have hlt : ∀ {a b : α × Nat}, a ∈ l.zipIdx → b ∈ l.zipIdx → a.2 < b.2 → key a.1 < key b.1 := by
    rintro ⟨a, i⟩ ⟨b, j⟩ ha hb hij
    obtain ⟨hi, rfl⟩ := List.getElem?_eq_some_iff.mp (List.mk_mem_zipIdx_iff_getElem?.mp ha)
    obtain ⟨hj, rfl⟩ := List.getElem?_eq_some_iff.mp (List.mk_mem_zipIdx_iff_getElem?.mp hb)
    exact List.pairwise_iff_getElem.mp h i j hi hj hij
  constructor
  · intro hle
    rcases Nat.lt_or_eq_of_le hle with hij | hij
    · exact Nat.le_of_lt (hlt ha hb hij)
    · have ha := List.mem_zipIdx_iff_getElem?.mp ha
      have hb := List.mem_zipIdx_iff_getElem?.mp hb
      rw [hij, hb] at ha
      exact Nat.le_of_eq (congrArg key (Option.some.inj ha).symm)
  · intro hkey
    by_contra hij
    exact absurd (hlt hb ha (Nat.lt_of_not_le hij)) (Nat.not_lt.mpr hkey)

/-- A stable sort of a list along which a key increases is a sort that breaks ties by the key. -/
theorem mergeSort_eq_of_increasing (h : l.Pairwise fun a b => key a < key b) :
    l.mergeSort le = l.mergeSort fun a b => le a b && (!le b a || key a ≤ key b) := by
  rw [← List.mergeSort_zipIdx, List.map_mergeSort (f := Prod.fst), List.zipIdx_map_fst]
  intro a ha b hb
  have hkey := key_le_iff_of_mem_zipIdx h ha hb
  simp only [List.zipIdxLE, hkey]
  cases le a.1 b.1 <;> cases le b.1 a.1 <;> simp

end Sorting

/-! ## Tables and journals -/

namespace EventTable

variable {journal : Journal} {table : EventTable} {filter : EventFilter}

theorem isWritable_iff_inCalendar {t : Timestamp} :
    (Timestamp.mk t.instant 0).isWritable = true ↔ t.InCalendar := by
  rw [Timestamp.isWritable, Bool.and_eq_true, decide_eq_true_iff, decide_eq_true_iff]
  rfl

-- `delta` here and below, as the equations of these definitions make Lean run the calendar
theorem timeOf_of_inCalendar {t : Timestamp} (h : t.InCalendar) : timeOf t = .ok t.instant := by
  have hutc : t.utc? = some ⟨t.instant, 0⟩ := if_pos (isWritable_iff_inCalendar.mpr h)
  delta timeOf
  rw [hutc]

theorem timeOf_of_not_inCalendar {t : Timestamp} (h : ¬ t.InCalendar) :
    timeOf t = .error .timeOutOfRange := by
  have hutc : t.utc? = none := if_neg fun hwritable => h (isWritable_iff_inCalendar.mp hwritable)
  delta timeOf
  rw [hutc]

theorem boundOf_of_inCalendar {bound? : Option TimeBound}
    (h : ∀ bound ∈ bound?, bound.time.InCalendar) :
    boundOf bound? = .ok (bound?.map fun bound => bound.time.instant) := by
  cases bound? with
  | none => rfl
  | some bound =>
    rw [boundOf, timeOf_of_inCalendar (h bound rfl)]
    rfl

theorem accepts_eq_accepts_toEvent (filter : EventFilter) (row : EventRow) :
    accepts filter (filter.since?.map fun bound => bound.time.instant)
      (filter.until?.map fun bound => bound.time.instant) row = filter.accepts row.toEvent := by
  obtain ⟨subject?, type?, since?, until?⟩ := filter
  cases since? <;> cases until? <;> rfl

/-- The order of rows by time and id is that by time alone for a sort that is stable. -/
theorem mergeSort_by_time_and_id {rows : List EventRow}
    (h : rows.Pairwise fun a b => a.id < b.id) :
    rows.mergeSort (fun a b => a.time < b.time || a.time = b.time && a.id ≤ b.id) =
      rows.mergeSort fun a b => a.time ≤ b.time := by
  symm
  rw [mergeSort_eq_of_increasing h]
  congr 1
  funext a b
  rcases Int.lt_trichotomy a.time b.time with hlt | heq | hgt
  · simp [hlt, Int.le_of_lt hlt, Int.not_le.mpr hlt]
  · simp [heq]
  · simp [Int.not_lt.mpr (Int.le_of_lt hgt), Int.not_le.mpr hgt, Int.ne_of_gt hgt]

/-- A table has recorded what a journal has recorded, under ids that count from one. -/
structure Mirrors (table : EventTable) (journal : Journal) : Prop where
  ids : table.rows.map EventRow.id = List.range' 1 table.rows.length
  events : table.rows.map EventRow.toEvent = journal.events.map Event.plain

namespace Mirrors

theorem empty : EventTable.empty.Mirrors .empty := ⟨rfl, rfl⟩

theorem length_eq (h : table.Mirrors journal) : table.rows.length = journal.events.length := by
  simpa using congrArg List.length h.events

theorem nextId_eq (h : table.Mirrors journal) : table.nextId = journal.nextId := by
  rw [nextId, Journal.nextId, h.length_eq]

theorem increasing (h : table.Mirrors journal) :
    table.rows.Pairwise fun a b => a.id < b.id := by
  have hids : (table.rows.map EventRow.id).Pairwise (· < ·) := by
    rw [h.ids]
    exact List.pairwise_lt_range'
  exact List.pairwise_map.mp hids

/-- A draft whose time the calendar has is recorded by both, as the same event. -/
theorem append (h : table.Mirrors journal) {now : Timestamp} {draft : EventDraft}
    (ht : (draft.timestamp?.getD now).InCalendar) :
    ∃ later, table.append now none draft = (.ok (journal.append now draft).1.plain, later) ∧
      later.Mirrors (journal.append now draft).2 := by
  let row : EventRow := ⟨table.nextId, draft.tenantId, draft.subjectId.toText, draft.type,
    draft.payload, (draft.timestamp?.getD now).instant⟩
  have hrow : row.toEvent = (journal.append now draft).1.plain := by
    simp only [row, h.nextId_eq]
    rfl
  refine ⟨⟨table.rows ++ [row]⟩, ?_, ?_⟩
  · delta EventTable.append
    rw [timeOf_of_inCalendar ht, ← hrow]
  · refine ⟨?_, ?_⟩
    · rw [List.map_append, h.ids, List.length_append, List.length_singleton, List.range'_concat]
      simp [row, nextId, Nat.add_comm]
    · have hevents : (journal.append now draft).2.events =
          journal.events ++ [(journal.append now draft).1] := rfl
      rw [List.map_append, h.events, hevents, List.map_append, List.map_singleton, hrow,
        List.map_singleton]

/-- A table and the journal that it mirrors give the same events in the same order: what passes the
filter as a row does so as an event, and rows of one time come in the order of their ids, which is
the one in which they were recorded. -/
theorem query (h : table.Mirrors journal) (tenantId : String)
    (hsince : ∀ bound ∈ filter.since?, bound.time.InCalendar)
    (huntil : ∀ bound ∈ filter.until?, bound.time.InCalendar) :
    table.query tenantId filter = .ok ((journal.query tenantId filter).map Event.plain) := by
  have hrows : table.query tenantId filter = .ok (((table.rows.filter
      (filter.selects tenantId ·.toEvent)).mergeSort fun a b =>
        a.time < b.time || a.time = b.time && a.id ≤ b.id).map EventRow.toEvent) := by
    rw [EventTable.query, boundOf_of_inCalendar hsince, boundOf_of_inCalendar huntil]
    simp only [bind, Except.bind, accepts_eq_accepts_toEvent]
    rfl
  rw [hrows, mergeSort_by_time_and_id (h.increasing.sublist List.filter_sublist),
    Journal.query_eq]
  congr 1
  -- on both sides, the plain events are filtered and then sorted
  have hstored : ((table.rows.filter (filter.selects tenantId ·.toEvent)).mergeSort
      fun a b => a.time ≤ b.time).map EventRow.toEvent =
      ((table.rows.map EventRow.toEvent).filter (filter.selects tenantId)).mergeSort
        Event.notAfter := by
    rw [List.filter_map]
    exact List.map_mergeSort fun _ _ _ _ => rfl
  have hkept : ((journal.events.filter (filter.selects tenantId)).mergeSort
      Event.notAfter).map Event.plain =
      ((journal.events.map Event.plain).filter (filter.selects tenantId)).mergeSort
        Event.notAfter := by
    rw [List.filter_map]
    exact List.map_mergeSort fun _ _ _ _ => rfl
  rw [hstored, hkept, h.events]

end Mirrors

end EventTable

/-! ## Runs of a store -/

namespace EventStore

open StoreAnswer

variable {journal : Journal} {table : EventTable}

/-- From a journal and a table that mirrors it on, calls are answered alike. -/
theorem agree_of_mirrors (h : table.Mirrors journal) (calls : List StoreCall)
    (hcalls : ∀ call ∈ calls, call.InCalendar) :
    Agree journal.nextId calls ((memory journal).answers calls)
      ((database table none).answers calls) := by
  induction calls generalizing journal table with
  | nil => exact ⟨by simp [answers], rfl, rfl, rfl⟩
  | cons call rest ih =>
    have hrest : ∀ call ∈ rest, call.InCalendar := fun c hc => hcalls c (.tail _ hc)
    cases call with
    | append now draft =>
      obtain ⟨later, happend, hlater⟩ := h.append (hcalls _ (.head _))
      have hkept : (memory journal).answer (.append now draft) =
          (.recorded (journal.append now draft).1, memory (journal.append now draft).2) := rfl
      have hstored : (database table none).answer (.append now draft) =
          (.recorded (journal.append now draft).1.plain, database later none) := by
        simp only [answer, EventStore.append, happend]
      have hid : (journal.append now draft).1.id = .number journal.nextId := rfl
      have hnext : (journal.append now draft).2.nextId = journal.nextId + 1 := by
        simp [Journal.append, Journal.nextId]
      simp only [answers, hkept, hstored]
      exact (hnext ▸ ih hlater hrest).recorded now draft hid
    | query tenantId filter =>
      obtain ⟨hsince, huntil⟩ := hcalls _ (.head _)
      have hkept : (memory journal).answer (.query tenantId filter) =
          (.found (journal.query tenantId filter), memory journal) := rfl
      have hstored : (database table none).answer (.query tenantId filter) =
          (.found ((journal.query tenantId filter).map Event.plain), database table none) := by
        simp only [answer, EventStore.query, h.query tenantId hsince huntil]
      simp only [answers, hkept, hstored]
      exact (ih h hrest).found tenantId filter _

/-- Whatever is recorded and asked for, in whatever order, a journal and a table give the same ids
and the same events, as long as the calendar has all times at Greenwich. -/
theorem backends_agree (calls : List StoreCall) (h : ∀ call ∈ calls, call.InCalendar) :
    Agree 1 calls ((empty .memory).answers calls) ((empty .database).answers calls) :=
  agree_of_mirrors .empty calls h

/-- Noon of 1 March 2024 at Greenwich, by a clock that is off by as many seconds as given. -/
def noon (offset : Int) : Timestamp := ⟨1709294400000000, offset⟩

/-- Two visits of one subject at one time, by different clocks and under ids of different kinds,
and a question about the times from then on, by a third clock. -/
def visits : List StoreCall := [
  .append (noon 0) ⟨"acme", .number 7, "visit", [("page", .str "home")], some (noon 19800)⟩,
  .append (noon 0) ⟨"acme", .text "7", "visit", [], none⟩,
  .query "acme" ⟨some (.number 7), some "visit", some ⟨noon (-3600), true⟩, none⟩]

theorem backends_agree_visits : (∀ call ∈ visits, call.InCalendar) ∧
    Agree 1 visits ((empty .memory).answers visits) ((empty .database).answers visits) := by
  have hcalendar : ∀ call ∈ visits, call.InCalendar := by decide
  exact ⟨hcalendar, backends_agree visits hcalendar⟩

end EventStore

end Automation
