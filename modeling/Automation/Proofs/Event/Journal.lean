import Automation.Proofs.Event.Backend
import Mathlib.Data.List.Sort

/-!
# The journal answers from its history

Whatever is recorded in a journal and asked of it, in whatever order: recordings are numbered from
one on, and a question is answered with the events that were recorded before it, are of the tenant
and pass the filter. Each of them is given once, by time, and in the order of recording at one time.
Nothing that is recorded later changes them, and a question that is asked again is answered with
what it was answered with before, and possibly more in between.

## Main definitions

* `EventFilter.Admits` — an event is of a tenant, and all that a filter sets holds of it.
* `Event.Precedes` — an event is earlier, or was recorded first at the same instant.
* `Event.Selection` — events are those that a question asks for, in order.
* `StoreAnswer.Chronicle` — calls are answered from the history of the calls before them.

## Main statements

* `Event.Selection.sublist` — the answer to a question is kept when more is recorded.
* `Journal.selection_query` — what a journal finds is the selection of its events.
* `EventStore.chronicle_memory` — all calls of a journal are answered from the history.
-/

namespace Automation

variable {filter : EventFilter} {tenantId : String} {event a b : Event}

/-- An event is of a tenant, and each part of a filter that is set holds of it. Subjects agree when
their texts do, and both bounds belong to the range. -/
structure EventFilter.Admits (filter : EventFilter) (tenantId : String) (event : Event) : Prop where
  tenant : event.tenantId = tenantId
  subject : ∀ subject ∈ filter.subjectId?, event.subjectId.toText = subject.toText
  type : ∀ type ∈ filter.type?, event.type = type
  since : ∀ bound ∈ filter.since?, bound.time.instant ≤ event.timestamp.instant
  upTo : ∀ bound ∈ filter.until?, event.timestamp.instant ≤ bound.time.instant

theorem EventFilter.selects_iff : filter.selects tenantId event = true ↔
    filter.Admits tenantId event := by
  have hadmits : filter.Admits tenantId event ↔ event.tenantId = tenantId ∧
      (∀ subject ∈ filter.subjectId?, event.subjectId.toText = subject.toText) ∧
      (∀ type ∈ filter.type?, event.type = type) ∧
      (∀ bound ∈ filter.since?, bound.time.instant ≤ event.timestamp.instant) ∧
      ∀ bound ∈ filter.until?, event.timestamp.instant ≤ bound.time.instant :=
    ⟨fun h => ⟨h.tenant, h.subject, h.type, h.since, h.upTo⟩,
      fun ⟨htenant, hsubject, htype, hsince, hupTo⟩ =>
        ⟨htenant, hsubject, htype, hsince, hupTo⟩⟩
  obtain ⟨subject?, type?, since?, until?⟩ := filter
  rw [hadmits]
  cases subject? <;> cases type? <;> cases since? <;> cases until? <;>
    simp [selects, accepts, and_assoc]

namespace Event

/-- The number that an event was recorded under. -/
def number (event : Event) : Nat :=
  match event.id with
  | .number i => i.toNat
  | .text _ => 0

/-- An event is earlier than another, or was recorded before it at the same instant. -/
def Precedes (a b : Event) : Prop :=
  a.timestamp.instant < b.timestamp.instant ∨
    a.timestamp.instant = b.timestamp.instant ∧ a.number < b.number

theorem Precedes.asymm (h : a.Precedes b) : ¬ b.Precedes a := by
  simp only [Precedes] at h ⊢
  omega

/-- Two events that come before each other are the same, as no two do. -/
instance : Std.Antisymm Precedes := ⟨fun _ _ hab hba => absurd hba hab.asymm⟩

/-- An event is not later than another, and was not recorded after it at the same instant. -/
def notBehind (a b : Event) : Bool := a.notAfter b && (!b.notAfter a || a.number ≤ b.number)

theorem notBehind_iff : a.notBehind b = true ↔ a.timestamp.instant < b.timestamp.instant ∨
    a.timestamp.instant = b.timestamp.instant ∧ a.number ≤ b.number := by
  simp only [notBehind, notAfter, Bool.and_eq_true, Bool.or_eq_true, Bool.not_eq_true',
    decide_eq_true_eq, decide_eq_false_iff_not]
  omega

theorem notBehind_trans (a b c : Event) (hab : a.notBehind b = true) (hbc : b.notBehind c = true) :
    a.notBehind c = true := by
  rw [notBehind_iff] at hab hbc ⊢
  omega

theorem notBehind_total (a b : Event) : (a.notBehind b || b.notBehind a) = true := by
  rw [Bool.or_eq_true, notBehind_iff, notBehind_iff]
  omega

/-- Events are those of a history that a question asks for, each of them once and in order. -/
structure Selection (history : List Event) (tenantId : String) (filter : EventFilter)
    (events : List Event) : Prop where
  mem_iff : ∀ event, event ∈ events ↔ event ∈ history ∧ filter.Admits tenantId event
  nodup : events.Nodup
  ordered : events.Pairwise Precedes

/-- With a longer history, what a question asks for is still there, in the order it was in. -/
theorem Selection.sublist {history later events more : List Event}
    (h : Selection history tenantId filter events) (hmore : Selection later tenantId filter more)
    (hhistory : history ⊆ later) : events.Sublist more := by
  have hsubset : events ⊆ more := fun event hevent =>
    have ⟨hmem, hadmits⟩ := (h.mem_iff event).mp hevent
    (hmore.mem_iff event).mpr ⟨hhistory hmem, hadmits⟩
  exact List.sublist_of_subperm_of_pairwise (List.subperm_of_subset h.nodup hsubset) h.ordered
    hmore.ordered

end Event

namespace Journal

variable {journal : Journal}

/-- The events of a journal are numbered from one on. -/
def Counted (journal : Journal) : Prop :=
  journal.events.map Event.number = List.range' 1 journal.events.length

theorem counted_empty : empty.Counted := rfl

theorem Counted.append (h : journal.Counted) (now : Timestamp) (draft : EventDraft) :
    (journal.append now draft).2.Counted := by
  have hnumber : (eventOf journal.nextId now draft).number = 1 + journal.events.length := by
    simp [eventOf, Event.number, nextId, Nat.add_comm]
  rw [Counted, Journal.append, List.map_append, h, List.map_singleton, hnumber, List.length_append,
    List.length_singleton, List.range'_concat, Nat.one_mul]

theorem Counted.increasing (h : journal.Counted) :
    journal.events.Pairwise fun a b => a.number < b.number := by
  have hnumbers : (journal.events.map Event.number).Pairwise (· < ·) := by
    rw [h]
    exact List.pairwise_lt_range'
  exact List.pairwise_map.mp hnumbers

/-- What a journal finds is in order: the sort is stable, and along the journal the numbers
increase. -/
theorem Counted.precedes (h : journal.Counted) (tenantId : String) (filter : EventFilter) :
    (journal.query tenantId filter).Pairwise Event.Precedes := by
  have hincreasing := h.increasing.sublist
    (List.filter_sublist (p := filter.selects tenantId) (l := journal.events))
  have hdistinct : ((journal.events.filter (filter.selects tenantId)).mergeSort
      Event.notAfter).Pairwise fun a b => a.number ≠ b.number :=
    (hincreasing.imp Nat.ne_of_lt).perm (List.mergeSort_perm _ _).symm Ne.symm
  rw [Journal.query_eq]
  rw [mergeSort_eq_of_increasing hincreasing] at hdistinct ⊢
  have hsorted := List.pairwise_mergeSort Event.notBehind_trans Event.notBehind_total
    (journal.events.filter (filter.selects tenantId))
  refine (hsorted.and hdistinct).imp fun {a b} ⟨hle, hne⟩ => ?_
  rw [Event.notBehind_iff] at hle
  simp only [Event.Precedes]
  omega

/-- What a journal finds is the selection of its events. -/
theorem selection_query (h : journal.Counted) (tenantId : String) (filter : EventFilter) :
    Event.Selection journal.events tenantId filter (journal.query tenantId filter) where
  mem_iff event := by
    rw [Journal.query_eq, List.mem_mergeSort, List.mem_filter, EventFilter.selects_iff]
  nodup := (h.precedes tenantId filter).imp fun {a b} hprecedes heq => by
    subst heq
    exact hprecedes.asymm hprecedes
  ordered := h.precedes tenantId filter

end Journal

namespace StoreAnswer

/-- The event that was recorded with an answer. -/
def event? : StoreAnswer → Option Event
  | .recorded event => some event
  | .found _ | .refused _ => none

/-- The events that were recorded with answers, in order. -/
def recordings (answers : List StoreAnswer) : List Event := answers.filterMap event?

/-- Calls are answered from the history of the calls before them. -/
structure Chronicle (calls : List StoreCall) (answers : List StoreAnswer) : Prop where
  /-- Every call is answered. -/
  length_eq : answers.length = calls.length
  /-- A draft becomes an event as it is, under the number of its recording, and with the present
  time if it has none. -/
  recorded : ∀ (k : Nat) (now : Timestamp) (draft : EventDraft),
    calls[k]? = some (.append now draft) →
    answers[k]? = some (.recorded ⟨.number ((calls.take k).countP StoreCall.isAppend + 1 : Nat),
      draft.tenantId, draft.subjectId, draft.type, draft.payload, draft.timestamp?.getD now⟩)
  /-- A question is answered with what it asks for of all that was recorded before. -/
  found : ∀ (k : Nat) (tenantId : String) (filter : EventFilter),
    calls[k]? = some (.query tenantId filter) → ∃ events, answers[k]? = some (.found events) ∧
      Event.Selection (recordings (answers.take k)) tenantId filter events
  /-- A question that is asked again is answered with the same events, and possibly more. -/
  kept : ∀ (j k : Nat) (tenantId : String) (filter : EventFilter) (earlier later : List Event),
    j ≤ k → calls[j]? = some (.query tenantId filter) →
    calls[k]? = some (.query tenantId filter) → answers[j]? = some (.found earlier) →
    answers[k]? = some (.found later) → earlier.Sublist later

end StoreAnswer

/-! ## Runs of a journal -/

namespace EventStore

open StoreAnswer

variable {store : EventStore} {journal : Journal}

/-- A store after calls in a row. -/
def after (store : EventStore) : List StoreCall → EventStore
  | [] => store
  | call :: rest => (store.answer call).2.after rest

theorem length_answers (store : EventStore) (calls : List StoreCall) :
    (store.answers calls).length = calls.length := by
  induction calls generalizing store with
  | nil => rfl
  | cons call rest ih => exact congrArg (· + 1) (ih _)

theorem take_answers (store : EventStore) (calls : List StoreCall) (k : Nat) :
    (store.answers calls).take k = store.answers (calls.take k) := by
  induction calls generalizing store k with
  | nil => simp [answers]
  | cons call rest ih =>
    cases k with
    | zero => rfl
    | succ k => simp [answers, ih]

/-- A call is answered by the store as the calls before it have left it. -/
theorem getElem?_answers {calls : List StoreCall} {k : Nat} {call : StoreCall}
    (h : calls[k]? = some call) : (store.answers calls)[k]? =
      some ((store.after (calls.take k)).answer call).1 := by
  induction calls generalizing store k with
  | nil => simp at h
  | cons first rest ih =>
    cases k with
    | zero =>
      obtain rfl := Option.some.inj h
      rfl
    | succ k => exact ih h

/-- A journal after calls holds what they have recorded behind what it held. -/
theorem after_memory (journal : Journal) (calls : List StoreCall) :
    (memory journal).after calls =
      memory ⟨journal.events ++ recordings ((memory journal).answers calls)⟩ := by
  induction calls generalizing journal with
  | nil => simp [after, answers, recordings]
  | cons call rest ih =>
    cases call with
    | append now draft =>
      have hevents : (journal.append now draft).2.events =
          journal.events ++ [(journal.append now draft).1] := rfl
      have hnext := ih (journal.append now draft).2
      rw [hevents, List.append_assoc] at hnext
      exact hnext
    | query tenantId filter => exact ih journal

/-- Every recording goes to the end of the journal, under the next number. -/
theorem counted_after (h : journal.Counted) (calls : List StoreCall) :
    Journal.Counted ⟨journal.events ++ recordings ((memory journal).answers calls)⟩ := by
  induction calls generalizing journal with
  | nil => simpa [answers, recordings] using h
  | cons call rest ih =>
    cases call with
    | append now draft =>
      have hevents : (journal.append now draft).2.events =
          journal.events ++ [(journal.append now draft).1] := rfl
      have hnext := ih (h.append now draft)
      rw [hevents, List.append_assoc] at hnext
      exact hnext
    | query tenantId filter => exact ih h

theorem length_recordings (journal : Journal) (calls : List StoreCall) :
    (recordings ((memory journal).answers calls)).length = calls.countP StoreCall.isAppend := by
  induction calls generalizing journal with
  | nil => rfl
  | cons call rest ih =>
    cases call with
    | append now draft =>
      rw [List.countP_cons_of_pos rfl, ← ih (journal.append now draft).2]
      rfl
    | query tenantId filter => exact ih journal

/-- The journal that calls leave when nothing was recorded before. -/
def journalAfter (calls : List StoreCall) : Journal := ⟨recordings ((empty .memory).answers calls)⟩

section

variable {calls : List StoreCall} {j k : Nat} {now : Timestamp} {draft : EventDraft}
  {tenantId : String}

theorem after_empty (calls : List StoreCall) :
    (empty .memory).after calls = memory (journalAfter calls) :=
  after_memory .empty calls

theorem counted_journalAfter (calls : List StoreCall) : (journalAfter calls).Counted :=
  counted_after Journal.counted_empty calls

theorem nextId_journalAfter (calls : List StoreCall) :
    (journalAfter calls).nextId = calls.countP StoreCall.isAppend + 1 :=
  congrArg (· + 1) (length_recordings .empty calls)

/-- The events that were recorded at one time are still there at a later one. -/
theorem journalAfter_subset (h : j ≤ k) :
    (journalAfter (calls.take j)).events ⊆ (journalAfter (calls.take k)).events := by
  have htake : (calls.take k).take j = calls.take j := by rw [List.take_take, Nat.min_eq_left h]
  -- the answers to the first calls are the first answers
  have hprefix : (empty .memory).answers (calls.take j) =
      ((empty .memory).answers (calls.take k)).take j := by
    rw [take_answers, htake]
  intro event hevent
  simp only [journalAfter, hprefix, recordings, List.mem_filterMap] at hevent ⊢
  obtain ⟨answer, hanswer, hevent⟩ := hevent
  exact ⟨answer, List.mem_of_mem_take hanswer, hevent⟩

theorem answer_append (h : calls[k]? = some (.append now draft)) :
    ((empty .memory).answers calls)[k]? = some (.recorded
      ⟨.number ((calls.take k).countP StoreCall.isAppend + 1 : Nat), draft.tenantId,
        draft.subjectId, draft.type, draft.payload, draft.timestamp?.getD now⟩) := by
  rw [getElem?_answers h, after_empty, ← nextId_journalAfter]
  rfl

theorem answer_query (h : calls[k]? = some (.query tenantId filter)) :
    ((empty .memory).answers calls)[k]? =
      some (.found ((journalAfter (calls.take k)).query tenantId filter)) := by
  rw [getElem?_answers h, after_empty]
  rfl

end

/-- Whatever is recorded and asked for, a journal answers from the history. -/
theorem chronicle_memory (calls : List StoreCall) :
    Chronicle calls ((empty .memory).answers calls) := by
  have hselects := fun (k : Nat) (tenantId : String) (filter : EventFilter) =>
    Journal.selection_query (counted_journalAfter (calls.take k)) tenantId filter
  refine ⟨length_answers _ calls, fun _ _ _ => answer_append, ?_, ?_⟩
  · intro k tenantId filter hcall
    refine ⟨_, answer_query hcall, ?_⟩
    rw [take_answers]
    exact hselects k tenantId filter
  · intro j k tenantId filter earlier later hle hj hk hearlier hlater
    rw [answer_query hj] at hearlier
    rw [answer_query hk] at hlater
    obtain rfl := StoreAnswer.found.inj (Option.some.inj hearlier)
    obtain rfl := StoreAnswer.found.inj (Option.some.inj hlater)
    exact (hselects j tenantId filter).sublist (hselects k tenantId filter)
      (journalAfter_subset hle)

end EventStore

end Automation
