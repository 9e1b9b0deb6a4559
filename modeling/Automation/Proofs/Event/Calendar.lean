import Automation.Proofs.Event.Journal
import Automation.Proofs.Validation.Documents

/-!
# Times that a table cannot keep

A table keeps the time of an event as the clock of Greenwich shows it, and compares it with bounds
on that clock. A clock ahead of Greenwich can show a time of the first day of the calendar, and a
clock behind it one of the last day, that the calendar does not have at Greenwich. Drafts and
filters with such times are accepted like all others, and a journal serves them; a table refuses
them, without a change, and serves all others.

## Main definitions

* `Timestamp.OffCalendar` — a time of the first or the last day that Greenwich does not have.
* `EventStore.Served` — what a healthy database does with a draft and with a question.

## Main statements

* `Timestamp.inCalendar_iff` — what Greenwich does not have is at the ends of the calendar.
* `EventStore.served_database` — drafts and filters are served unless they have such times.
* `EventStore.refused_newYear` — the first hours of the calendar east of Greenwich.
-/

namespace Automation

/-! ## The ends of the calendar -/

namespace Date

variable {days : Int}

theorem year_ofDays_iff : (1 ≤ (ofDays days).year ∧ (ofDays days).year ≤ 9999) ↔
    -719162 ≤ days ∧ days ≤ 2932896 := by
  constructor
  · rintro ⟨hlow, hhigh⟩
    have hbounds := toDays_bounds (isValid_ofDays days) hlow hhigh
    rwa [toDays_ofDays] at hbounds
  · rintro ⟨hlow, hhigh⟩
    exact year_ofDays hlow hhigh

theorem ofDays_eq_first_iff : ofDays days = ⟨1, 1, 1⟩ ↔ days = -719162 := by
  constructor
  · intro h
    rw [← toDays_ofDays days, h]
    rfl
  · rintro rfl
    rfl

theorem ofDays_eq_last_iff : ofDays days = ⟨9999, 12, 31⟩ ↔ days = 2932896 := by
  constructor
  · intro h
    rw [← toDays_ofDays days, h]
    rfl
  · rintro rfl
    rfl

end Date

namespace Timestamp

variable {t : Timestamp}

/-- The time of day on the clock, in microseconds. -/
def timeOfDay (t : Timestamp) : Int := t.wall % (secondsPerDay * microsPerSecond)

/-- The clock shows a time of the first day of the calendar when that day has not begun at
Greenwich, or one of the last day when that day is over there. -/
def OffCalendar (t : Timestamp) : Prop :=
  t.date = ⟨1, 1, 1⟩ ∧ t.timeOfDay < t.offset * microsPerSecond ∨
    t.date = ⟨9999, 12, 31⟩ ∧
      secondsPerDay * microsPerSecond ≤ t.timeOfDay - t.offset * microsPerSecond

instance (t : Timestamp) : Decidable t.OffCalendar := inferInstanceAs (Decidable (_ ∨ _))

/-- A clock of Greenwich, which shows a year from 1 to 9999. -/
def AtGreenwich (t : Timestamp) : Prop := t.offset = 0 ∧ t.isWritable = true

instance (t : Timestamp) : Decidable t.AtGreenwich := inferInstanceAs (Decidable (_ ∧ _))

theorem days_of_isWritable (h : t.isWritable = true) :
    -719162 ≤ t.wall / (secondsPerDay * microsPerSecond) ∧
      t.wall / (secondsPerDay * microsPerSecond) ≤ 2932896 := by
  rw [isWritable, Bool.and_eq_true, decide_eq_true_iff, decide_eq_true_iff] at h
  exact Date.year_ofDays_iff.mp h

theorem inCalendar_iff_days : t.InCalendar ↔
    -719162 ≤ t.instant / (secondsPerDay * microsPerSecond) ∧
      t.instant / (secondsPerDay * microsPerSecond) ≤ 2932896 := by
  have hwall : (Timestamp.mk t.instant 0).wall = t.instant := by
    rw [wall, Int.zero_mul, Int.add_zero]
  rw [InCalendar, date, hwall, Date.year_ofDays_iff]

/-- The times that the calendar has at Greenwich are all that are not at its ends. -/
theorem inCalendar_iff (h : t.Sound) : t.InCalendar ↔ ¬ t.OffCalendar := by
  have hdays := days_of_isWritable h.writable
  have hsmall := h.small
  have hinstant : t.instant = t.wall - t.offset * microsPerSecond := by
    rw [wall, Int.add_sub_cancel]
  rw [inCalendar_iff_days, OffCalendar, date, Date.ofDays_eq_first_iff, Date.ofDays_eq_last_iff,
    timeOfDay, hinstant]
  simp only [secondsPerDay, microsPerSecond] at *
  omega

theorem AtGreenwich.inCalendar (h : t.AtGreenwich) : t.InCalendar := by
  obtain ⟨instant, offset⟩ := t
  obtain ⟨rfl, hwritable⟩ := h
  exact EventTable.isWritable_iff_inCalendar.mp hwritable

end Timestamp

/-! ## What is accepted -/

section

open Validation

variable {document : Json} {fields : Json.Members} {name : String}

/-- A time that may be left out is sound when it is there. -/
theorem sound_of_optional {time? : Option Timestamp}
    (h : Validation.optional [name] none (nullable timestamp) fields = .ok time?) :
    ∀ t ∈ time?, t.Sound := by
  refine of_optional (P := fun time? => ∀ t ∈ time?, t.Sound) (by simp) ?_ h
  rintro value time? hread t rfl
  obtain ⟨-, hnone⟩ | ⟨-, time, htime, hsome⟩ := nullable_eq_ok_iff.mp hread
  · cases hnone
  · obtain rfl := Option.some.inj hsome
    exact Timestamp.sound_of_ofJson (timestamp_eq_ok_iff.mp htime)

/-- A bound that may be left out is at a sound time when it is there. -/
theorem sound_of_optional_bound {bound? : Option TimeBound}
    (h : Validation.optional [name] none (nullable TimeBound.ofJson) fields = .ok bound?) :
    ∀ bound ∈ bound?, bound.time.Sound := by
  refine of_optional (P := fun bound? => ∀ bound ∈ bound?, bound.time.Sound) (by simp) ?_ h
  rintro value bound? hread bound rfl
  obtain ⟨-, hnone⟩ | ⟨-, bound, hbound, hsome⟩ := nullable_eq_ok_iff.mp hread
  · cases hnone
  · obtain rfl := Option.some.inj hsome
    exact Timestamp.sound_of_ofJson (timestamp_eq_ok_iff.mp (TimeBound.time_of_ofJson hbound))

theorem EventDraft.sound_of_ofJson {draft : EventDraft} (h : ofJson document = .ok draft) :
    ∀ t ∈ draft.timestamp?, t.Sound := by
  obtain ⟨fields, -, h⟩ := record_eq_ok_iff.mp h
  simp only [Validated.ap_eq_ok_iff, Validated.accept] at h
  obtain ⟨_, timestamp?, ⟨_, payload, ⟨_, type, ⟨_, subjectId, ⟨_, tenantId, ⟨rfl⟩, -, rfl⟩, -,
    rfl⟩, -, rfl⟩, -, rfl⟩, htimestamp, rfl⟩ := h
  exact sound_of_optional htimestamp

theorem EventFilter.sound_of_ofJson {filter : EventFilter} (h : ofJson document = .ok filter) :
    (∀ bound ∈ filter.since?, bound.time.Sound) ∧ ∀ bound ∈ filter.until?, bound.time.Sound := by
  obtain ⟨fields, -, h⟩ := record_eq_ok_iff.mp h
  simp only [Validated.ap_eq_ok_iff, Validated.accept] at h
  obtain ⟨_, until?, ⟨_, since?, ⟨_, type?, ⟨_, subjectId?, ⟨rfl⟩, -, rfl⟩, -, rfl⟩, hsince, rfl⟩,
    huntil, rfl⟩ := h
  exact ⟨sound_of_optional_bound hsince, sound_of_optional_bound huntil⟩

end

/-! ## What a table serves -/

/-- A draft has a time that Greenwich does not have. -/
def EventDraft.OffCalendar (draft : EventDraft) : Prop := ∃ t ∈ draft.timestamp?, t.OffCalendar

/-- A filter has a bound that Greenwich does not have. -/
def EventFilter.OffCalendar (filter : EventFilter) : Prop :=
  (∃ bound ∈ filter.since?, bound.time.OffCalendar) ∨
    ∃ bound ∈ filter.until?, bound.time.OffCalendar

namespace EventTable

variable {table : EventTable} {now : Timestamp} {draft : EventDraft} {filter : EventFilter}

/-- The row that a draft becomes. -/
def newRow (table : EventTable) (now : Timestamp) (draft : EventDraft) : EventRow :=
  ⟨table.nextId, draft.tenantId, draft.subjectId.toText, draft.type, draft.payload,
    (draft.timestamp?.getD now).instant⟩

theorem append_of_inCalendar (h : (draft.timestamp?.getD now).InCalendar) :
    table.append now none draft =
      (.ok (table.newRow now draft).toEvent, ⟨table.rows ++ [table.newRow now draft]⟩) := by
  delta EventTable.append
  rw [timeOf_of_inCalendar h]
  rfl

theorem append_of_not_inCalendar {disruption? : Option Disruption}
    (h : ¬ (draft.timestamp?.getD now).InCalendar) :
    table.append now disruption? draft = (.error .timeOutOfRange, table) := by
  delta EventTable.append
  rw [timeOf_of_not_inCalendar h]

theorem boundOf_of_not_inCalendar {bound? : Option TimeBound}
    (h : ∃ bound ∈ bound?, ¬ bound.time.InCalendar) :
    boundOf bound? = .error .timeOutOfRange := by
  obtain ⟨bound, rfl, hbound⟩ := h
  rw [boundOf, timeOf_of_not_inCalendar hbound]
  rfl

/-- A table finds the events of its rows that are asked for. -/
theorem exists_query_of_inCalendar (tenantId : String)
    (hsince : ∀ bound ∈ filter.since?, bound.time.InCalendar)
    (huntil : ∀ bound ∈ filter.until?, bound.time.InCalendar) :
    ∃ events, table.query tenantId filter = .ok events ∧ ∀ event, event ∈ events ↔
      ∃ row ∈ table.rows, row.toEvent = event ∧ filter.Admits tenantId event := by
  rw [EventTable.query, boundOf_of_inCalendar hsince, boundOf_of_inCalendar huntil]
  refine ⟨_, rfl, fun event => ?_⟩
  simp only [accepts_eq_accepts_toEvent, List.mem_map, List.mem_mergeSort, List.mem_filter,
    ← EventFilter.selects_iff]
  constructor
  · rintro ⟨row, ⟨hrow, hselects⟩, rfl⟩
    exact ⟨row, hrow, rfl, hselects⟩
  · rintro ⟨row, hrow, rfl, hselects⟩
    exact ⟨row, ⟨hrow, hselects⟩, rfl⟩

/-- A table finds nothing when a bound cannot be compared with its rows. -/
theorem query_of_not_inCalendar (tenantId : String)
    (h : (∃ bound ∈ filter.since?, ¬ bound.time.InCalendar) ∨
      ∃ bound ∈ filter.until?, ¬ bound.time.InCalendar) :
    table.query tenantId filter = .error .timeOutOfRange := by
  by_cases hsince : ∃ bound ∈ filter.since?, ¬ bound.time.InCalendar
  · rw [EventTable.query, boundOf_of_not_inCalendar hsince]
    rfl
  · have huntil := h.resolve_left hsince
    push Not at hsince
    rw [EventTable.query, boundOf_of_inCalendar hsince, boundOf_of_not_inCalendar huntil]
    rfl

end EventTable

namespace EventStore

/-- What a healthy database does with a draft and with a question. -/
structure Served (now : Timestamp) (draft : EventDraft) (tenantId : String) (filter : EventFilter)
    (table : EventTable) : Prop where
  /-- A draft is recorded as its row and read back from it, unless its time is off the calendar. -/
  recorded : ¬ draft.OffCalendar → (database table none).append now draft =
    (.ok (table.newRow now draft).toEvent,
      database ⟨table.rows ++ [table.newRow now draft]⟩ none)
  /-- Such a draft fails, and leaves the table as it was. -/
  refused : draft.OffCalendar → (database table none).append now draft =
    (.error .timeOutOfRange, database table none)
  /-- A question is answered with what it asks for, unless a bound is off the calendar. -/
  found : ¬ filter.OffCalendar →
    ∃ events, (database table none).query tenantId filter = .ok events ∧ ∀ event,
      event ∈ events ↔ ∃ row ∈ table.rows, row.toEvent = event ∧ filter.Admits tenantId event
  /-- Such a question fails. -/
  unanswered : filter.OffCalendar →
    (database table none).query tenantId filter = .error .timeOutOfRange
  /-- A journal serves every draft and every question. -/
  kept : ∀ journal : Journal,
    (∃ event later, (memory journal).append now draft = (.ok event, later)) ∧
      ∃ events, (memory journal).query tenantId filter = .ok events

/-- Every draft and every filter that is accepted is served by a healthy database, whatever it has
recorded, except for times at the ends of the calendar that Greenwich does not have. -/
theorem served_database {document question : Json} {draft : EventDraft} {filter : EventFilter}
    {now : Timestamp} (hdraft : EventDraft.ofJson document = .ok draft)
    (hfilter : EventFilter.ofJson question = .ok filter) (hnow : now.AtGreenwich)
    (tenantId : String) (table : EventTable) : Served now draft tenantId filter table := by
  have htime : (draft.timestamp?.getD now).InCalendar ↔ ¬ draft.OffCalendar := by
    have hsound := EventDraft.sound_of_ofJson hdraft
    rw [EventDraft.OffCalendar]
    -- a draft without a time takes the present one, which the calendar has
    cases htimestamp : draft.timestamp? with
    | none => simpa using hnow.inCalendar
    | some t => simpa using Timestamp.inCalendar_iff (hsound t htimestamp)
  obtain ⟨hsince, huntil⟩ := EventFilter.sound_of_ofJson hfilter
  have hbound : ∀ {bound? : Option TimeBound}, (∀ bound ∈ bound?, bound.time.Sound) →
      ((∃ bound ∈ bound?, bound.time.OffCalendar) ↔ ∃ bound ∈ bound?, ¬ bound.time.InCalendar) := by
    intro bound? hsound
    refine exists_congr fun bound => and_congr_right fun hmem => ?_
    rw [Timestamp.inCalendar_iff (hsound bound hmem), not_not]
  refine ⟨fun hon => ?_, fun hoff => ?_, fun hon => ?_, fun hoff => ?_, fun journal => ?_⟩
  · rw [EventStore.append, EventTable.append_of_inCalendar (htime.mpr hon)]
  · rw [EventStore.append, EventTable.append_of_not_inCalendar fun h => htime.mp h hoff]
  · rw [EventFilter.OffCalendar, hbound hsince, hbound huntil] at hon
    push Not at hon
    exact EventTable.exists_query_of_inCalendar tenantId hon.1 hon.2
  · rw [EventFilter.OffCalendar, hbound hsince, hbound huntil] at hoff
    exact EventTable.query_of_not_inCalendar tenantId hoff
  · exact ⟨⟨_, _, rfl⟩, ⟨_, rfl⟩⟩

/-- The document of an event of a tenant at a time. -/
def visitAt (time : String) : Json := .obj [
  ("tenant_id", .str "acme"),
  ("subject_id", .ofNat 7),
  ("type", .str "visit"),
  ("timestamp", .str time)]

/-- Noon of 1 June 2024 at Greenwich. -/
def noonInJune : Timestamp := ⟨1717243200000000, 0⟩

/-- The first instant of the calendar at Greenwich is recorded, and found up to the last hours of
the calendar by a clock that is ahead. -/
theorem served_database_firstInstant :
    ∃ draft filter, EventDraft.ofJson (visitAt "0001-01-01T00:00:00Z") = .ok draft ∧
      EventFilter.ofJson (.obj [("until", .str "9999-12-31T23:59:59+14:00")]) = .ok filter ∧
      noonInJune.AtGreenwich ∧ ¬ draft.OffCalendar ∧ ¬ filter.OffCalendar ∧
      Served noonInJune draft "acme" filter .empty := by
  have hdraft : EventDraft.ofJson (visitAt "0001-01-01T00:00:00Z") = .ok
      ⟨"acme", .number 7, "visit", [], some ⟨-62135596800000000, 0⟩⟩ := by decide +kernel
  have hfilter : EventFilter.ofJson (.obj [("until", .str "9999-12-31T23:59:59+14:00")]) = .ok
      ⟨none, none, none, some ⟨⟨253402250399000000, 50400⟩, true⟩⟩ := by decide +kernel
  have hnow : noonInJune.AtGreenwich := by decide +kernel
  refine ⟨_, _, hdraft, hfilter, hnow, ?_, ?_, served_database hdraft hfilter hnow "acme" .empty⟩
  · simp only [EventDraft.OffCalendar, Option.mem_some_iff, exists_eq_left']
    decide +kernel
  · simp only [EventFilter.OffCalendar, Option.mem_some_iff, exists_eq_left', Option.not_mem_none,
      false_and, exists_false, false_or]
    decide +kernel

/-- The beginning of the calendar by a clock one hour ahead of Greenwich. -/
def newYear : Timestamp := ⟨-62135600400000000, 3600⟩

/-- The first hour of the calendar east of Greenwich is accepted in drafts and filters, and a
journal records it and asks for it; a table does neither. -/
theorem refused_newYear :
    let draft : EventDraft := ⟨"acme", .number 7, "visit", [], some newYear⟩
    let filter : EventFilter := ⟨none, none, some ⟨newYear, true⟩, none⟩
    EventDraft.ofJson (visitAt "0001-01-01T00:00:00+01:00") = .ok draft ∧
      EventFilter.ofJson (.obj [("since", .str "0001-01-01T00:00:00+01:00")]) = .ok filter ∧
      (∃ event later, (empty .memory).append noonInJune draft = (.ok event, later)) ∧
      (empty .database).append noonInJune draft = (.error .timeOutOfRange, empty .database) ∧
      (empty .memory).query "acme" filter = .ok [] ∧
      (empty .database).query "acme" filter = .error .timeOutOfRange := by
  refine ⟨?_, ?_, ⟨_, _, rfl⟩, ?_, ?_, ?_⟩ <;> decide +kernel

end EventStore

end Automation
