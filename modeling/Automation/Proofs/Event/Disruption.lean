import Automation.Proofs.Event.Calendar

/-!
# What a failing database leaves behind

A database can fail before the row of a draft is committed, or when the row is read back. The caller
is told the same of both, but after the second the row is in the table: a draft that is recorded
again until it is done has a row for each time that it failed in this way, and one more.

## Main definitions

* `EventTable.Attempt` — a draft that is recorded at a time, with the point at which the database
  fails if it does.
* `EventTable.Attempt.Keeps` — an attempt leaves a row.
* `EventTable.record` — the table after attempts in a row.

## Main statements

* `EventTable.append_disrupted` — what is told of a failure does not depend on where it happens.
* `EventTable.rows_record` — the rows that attempts in a row leave.
* `EventTable.rows_record_again` — the rows of a draft that is recorded again until it is done.
-/

namespace Automation

namespace EventTable

/-- A draft that is recorded at a time, with the point at which the database fails if it does. -/
structure Attempt where
  now : Timestamp
  disruption? : Option Disruption
  draft : EventDraft

namespace Attempt

/-- The time that goes into the row. -/
def time (attempt : Attempt) : Timestamp := attempt.draft.timestamp?.getD attempt.now

/-- The row of an attempt under an id. -/
def row (attempt : Attempt) (id : Nat) : EventRow :=
  ⟨id, attempt.draft.tenantId, attempt.draft.subjectId.toText, attempt.draft.type,
    attempt.draft.payload, attempt.time.instant⟩

/-- An attempt leaves a row: the calendar has its time at Greenwich, and the database does not fail
before the row is committed. -/
def Keeps (attempt : Attempt) : Prop :=
  attempt.time.InCalendar ∧ attempt.disruption? ≠ some .beforeCommit

instance : DecidablePred Keeps := fun _ => inferInstanceAs (Decidable (_ ∧ _))

end Attempt

/-- The table after attempts in a row. -/
def record (table : EventTable) (attempts : List Attempt) : EventTable :=
  attempts.foldl (fun table attempt =>
    (table.append attempt.now attempt.disruption? attempt.draft).2) table

variable {table : EventTable} {now : Timestamp} {draft : EventDraft}

/-- The caller cannot tell whether the database failed before the row was committed. -/
theorem append_disrupted (first second : Disruption) :
    (table.append now (some first) draft).1 = (table.append now (some second) draft).1 := by
  delta EventTable.append
  cases timeOf (draft.timestamp?.getD now) with
  | error failure => rfl
  | ok time => cases first <;> cases second <;> rfl

theorem rows_append (table : EventTable) (attempt : Attempt) :
    (table.append attempt.now attempt.disruption? attempt.draft).2.rows =
      if attempt.Keeps then table.rows ++ [attempt.row table.nextId] else table.rows := by
  obtain ⟨now, disruption?, draft⟩ := attempt
  delta EventTable.append
  by_cases hcalendar : (draft.timestamp?.getD now).InCalendar
  · rw [timeOf_of_inCalendar hcalendar]
    cases disruption? with
    | none => exact (if_pos ⟨hcalendar, by simp⟩).symm
    | some disruption =>
      cases disruption with
      | beforeCommit => exact (if_neg fun h => h.2 rfl).symm
      | afterCommit => exact (if_pos ⟨hcalendar, by simp⟩).symm
  · rw [timeOf_of_not_inCalendar hcalendar]
    exact (if_neg fun h => hcalendar h.1).symm

/-- The rows that attempts in a row leave, in their order and with the ids that follow. -/
theorem rows_record (table : EventTable) (attempts : List Attempt) :
    (table.record attempts).rows = table.rows ++
      (attempts.filter (·.Keeps)).mapIdx fun index attempt =>
        attempt.row (table.nextId + index) := by
  induction attempts generalizing table with
  | nil => exact (List.append_nil _).symm
  | cons attempt rest ih =>
    have hrows := rows_append table attempt
    rw [record, List.foldl_cons]
    refine (ih _).trans ?_
    by_cases hkeeps : attempt.Keeps
    · rw [if_pos hkeeps] at hrows
      have hnext : (table.append attempt.now attempt.disruption? attempt.draft).2.nextId =
          table.nextId + 1 := by
        rw [nextId, hrows, List.length_append]
        rfl
      rw [hrows, hnext, List.filter_cons_of_pos (by simpa using hkeeps), List.mapIdx_cons]
      simp only [Nat.add_assoc, Nat.add_comm 1, List.append_assoc, List.singleton_append,
        Nat.add_zero]
    · rw [if_neg hkeeps] at hrows
      have hnext : (table.append attempt.now attempt.disruption? attempt.draft).2.nextId =
          table.nextId := by
        rw [nextId, hrows]
        rfl
      rw [hrows, hnext, List.filter_cons_of_neg (by simpa using hkeeps)]

/-- The attempts of a caller that records a draft again until it is done. -/
def again (now : Timestamp) (draft : EventDraft) (failures : List Disruption) : List Attempt :=
  (failures.map some ++ [none]).map fun disruption? => ⟨now, disruption?, draft⟩

theorem countP_again (hcalendar : (draft.timestamp?.getD now).InCalendar)
    (failures : List Disruption) :
    (again now draft failures).countP (·.Keeps) = failures.count .afterCommit + 1 := by
  have hkeeps : ∀ disruption?, (Attempt.mk now disruption? draft).Keeps ↔
      disruption? ≠ some .beforeCommit := fun _ => and_iff_right hcalendar
  rw [again, List.countP_map, List.countP_append, List.countP_map, List.count]
  congr 1
  · refine List.countP_congr fun failure _ => ?_
    cases failure <;> simp [hkeeps]
  · simp [hkeeps]

/-- A draft that is recorded again until it is done is in the table once for each time that the
database failed when its row was read back, and once more; the rows differ in nothing but their
ids. -/
theorem rows_record_again (table : EventTable)
    (hcalendar : (draft.timestamp?.getD now).InCalendar) (failures : List Disruption) :
    (table.record (again now draft failures)).rows = table.rows ++
      (List.range (failures.count .afterCommit + 1)).map fun index =>
        (Attempt.mk now none draft).row (table.nextId + index) := by
  have hlength : ((again now draft failures).filter (·.Keeps)).length =
      failures.count .afterCommit + 1 := by
    rw [← List.countP_eq_length_filter, countP_again hcalendar]
  have hrow : ∀ attempt ∈ (again now draft failures).filter (·.Keeps), ∀ id,
      attempt.row id = (Attempt.mk now none draft).row id := by
    intro attempt hattempt id
    obtain ⟨disruption?, -, rfl⟩ := List.mem_map.mp (List.mem_filter.mp hattempt).1
    rfl
  rw [rows_record, List.append_cancel_left_eq]
  apply List.ext_getElem
  · rw [List.length_mapIdx, List.length_map, List.length_range, hlength]
  · intro index hleft hright
    rw [List.getElem_mapIdx, List.getElem_map, List.getElem_range]
    exact hrow _ (List.getElem_mem _) _

end EventTable

end Automation
