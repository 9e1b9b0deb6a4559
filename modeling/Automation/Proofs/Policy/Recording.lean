import Automation.Policy.Matcher
import Automation.Proofs.Condition.Reads
import Automation.Proofs.Event.Backend
import Automation.Proofs.Json.Path

/-!
# Policies and recorded events

Policies are matched against the event that the store has recorded. A journal and a table record a
draft as events that differ in the spelling of the subject and in the clock of the time. No policy
sees the clock, and a policy sees the spelling only where its condition reads the subject, under one
of its two names.

## Main definitions

* `Policy.ReadsSubject` — a policy has a condition that reads the subject.

## Main statements

* `Event.resolve_root_plain` — no path leads to a clock, and only two lead to a subject.
* `Policy.matchActions_recorded` — how far a journal and a table make policies ask for the same.
* `Policy.matchActions_recorded_ne` — a rule about one caller that a table keeps from applying.
-/

namespace Automation

theorem Identifier.step_toJson (i : Identifier) (part : String) :
    Json.step i.toJson part = .ok none := by
  cases i <;> rfl

namespace Event

/-- A path into an event leads to the same place whatever the clock of its time. It does so whatever
the spelling of its subject, too, unless it leads to the subject itself. -/
theorem resolve_root_plain {path : String} (hsubject : path ≠ "subject_id")
    (hcontact : path ≠ "contact_id") (event : Event) :
    Json.resolve path event.plain.root = Json.resolve path event.root := by
  rw [Json.resolve, Json.resolve]
  cases hparts : Json.Path.parts path with
  | nil => exact absurd hparts (Json.parts_ne_nil path)
  | cons first rest =>
    by_cases hfirst : first = "subject_id" ∨ first = "contact_id"
    · -- what follows the subject leads nowhere, however it is spelled
      cases rest with
      | nil =>
        have hpath := Json.eq_of_parts_eq_singleton hparts
        rcases hfirst with rfl | rfl
        · exact absurd hpath hsubject
        · exact absurd hpath hcontact
      | cons second rest =>
        have hwalk : Json.walk event.plain.subjectId.toJson (second :: rest) =
            Json.walk event.subjectId.toJson (second :: rest) := by
          simp only [Json.walk, Identifier.step_toJson]
        rcases hfirst with rfl | rfl
        · exact hwalk
        · exact hwalk
    · obtain ⟨hsubject, hcontact⟩ := not_or.mp hfirst
      have hsubject : (first == "subject_id") = false := beq_eq_false_iff_ne.mpr hsubject
      have hcontact : (first == "contact_id") = false := beq_eq_false_iff_ne.mpr hcontact
      have hstep : Json.step event.plain.root first = Json.step event.root first := by
        simp only [Json.step, root, List.lookup_cons, hsubject, hcontact]
        rfl
      simp only [Json.walk, hstep]

theorem root_plain_of_text {event : Event} {text : String} (h : event.subjectId = .text text) :
    event.plain.root = event.root := by
  have hsubject : event.plain.subjectId = event.subjectId := by
    rw [h]
    show Identifier.text event.subjectId.toText = _
    rw [h]
    rfl
  rw [root, root, hsubject]
  rfl

end Event

/-- The event that a table gives back is the one that a journal would keep, as it is plain. -/
theorem EventTable.eq_of_append_eq_ok {table : EventTable} {now : Timestamp}
    {disruption? : Option Disruption} {draft : EventDraft} {event : Event}
    (h : (table.append now disruption? draft).1 = .ok event) :
    event = (Journal.eventOf table.nextId now draft).plain := by
  by_cases hcalendar : (draft.timestamp?.getD now).InCalendar
  · delta EventTable.append at h
    rw [timeOf_of_inCalendar hcalendar] at h
    cases disruption? with
    | none => exact (Except.ok.inj h).symm
    | some disruption => cases disruption <;> cases h
  · delta EventTable.append at h
    rw [timeOf_of_not_inCalendar hcalendar] at h
    cases h

/-! ## Policies -/

namespace Policy

/-- A policy has a condition that reads the subject of events, under one of its names. -/
def ReadsSubject (policy : Policy) : Prop :=
  ∃ condition ∈ policy.condition?, condition.Reads "subject_id" ∨ condition.Reads "contact_id"

theorem applies_of_root_eq {a b : Event} (htype : a.type = b.type) (hroot : a.root = b.root)
    (policy : Policy) : policy.applies a = policy.applies b := by
  rw [applies, applies, htype, hroot]

/-- A policy applies to an event however its subject is spelled, when it comes as a text or the
policy does not look at it. -/
theorem applies_plain {policy : Policy} {event : Event}
    (h : (∃ text, event.subjectId = .text text) ∨ ¬ policy.ReadsSubject) :
    policy.applies event.plain = policy.applies event := by
  rcases h with ⟨text, htext⟩ | hreads
  · have hroot := Event.root_plain_of_text htext
    exact applies_of_root_eq (a := event.plain) (b := event) rfl hroot policy
  · rw [applies, applies]
    cases hcondition : policy.condition? with
    | none => rfl
    | some condition =>
      have hcheck : condition.check event.plain.root = condition.check event.root := by
        refine Condition.check_congr condition fun path hpath => ?_
        refine Event.resolve_root_plain ?_ ?_ event
        · rintro rfl
          exact hreads ⟨condition, hcondition, .inl hpath⟩
        · rintro rfl
          exact hreads ⟨condition, hcondition, .inr hpath⟩
      show (typeMatches event.type policy.eventType && condition.evaluate event.plain.root) =
        (typeMatches event.type policy.eventType && condition.evaluate event.root)
      rw [Condition.evaluate, Condition.evaluate, hcheck]

theorem matchActions_congr {a b : Event} {policies : List Policy}
    (h : ∀ policy ∈ policies, policy.applies a = policy.applies b) :
    matchActions a policies = matchActions b policies := by
  rw [matchActions, matchActions, applicable, applicable, List.filter_congr h]

/-- Policies ask for the same actions whether a draft is recorded in a journal or, under the same
id, in a table: with the subject back as it was submitted, all of them do, and with the event as
it was recorded they do if the subject was submitted as a text or none of them looks at it. -/
theorem matchActions_recorded {journal : Journal} {table : EventTable}
    {disruption? : Option Disruption} {now : Timestamp} {draft : EventDraft} {kept stored : Event}
    (hids : table.nextId = journal.nextId)
    (hkept : ((EventStore.memory journal).append now draft).1 = .ok kept)
    (hstored : ((EventStore.database table disruption?).append now draft).1 = .ok stored)
    (policies : List Policy) :
    matchActions { stored with subjectId := draft.subjectId } policies =
        matchActions kept policies ∧
      ((∃ text, draft.subjectId = .text text) ∨ (∀ policy ∈ policies, ¬ policy.ReadsSubject) →
        matchActions stored policies = matchActions kept policies) := by
  have hkept : Journal.eventOf journal.nextId now draft = kept := Except.ok.inj hkept
  have hstored : stored = kept.plain := by
    rw [EventTable.eq_of_append_eq_ok hstored, hids, hkept]
  have hsubject : draft.subjectId = kept.subjectId := hkept ▸ rfl
  rw [hsubject, hstored]
  constructor
  · exact matchActions_congr fun policy _ => applies_of_root_eq rfl rfl policy
  · intro h
    refine matchActions_congr fun policy hmem => applies_plain ?_
    rcases h with htext | hreads
    · exact .inl htext
    · exact .inr (hreads policy hmem)

/-- A call of a subject that goes by a number. -/
def call (subject : Int) : EventDraft :=
  ⟨"acme", .number subject, "call.missed", [("rings", .ofNat 9)], none⟩

/-- A rule about calls that satisfy a condition. -/
def callRule (condition : Condition) : Policy :=
  ⟨"call.*", some condition, [⟨"add_label", [("label", .str "urgent")]⟩], 0⟩

theorem matchActions_recorded_insistentCall :
    let rule := callRule (.compare .atLeast (.path "payload.rings") (.literal (.ofNat 5)))
    ∃ kept stored,
      ((EventStore.memory .empty).append (EventStore.noon 0) (call 42)).1 = .ok kept ∧
      ((EventStore.database .empty none).append (EventStore.noon 0) (call 42)).1 = .ok stored ∧
      ¬ rule.ReadsSubject ∧ matchActions stored [rule] = matchActions kept [rule] := by
  intro rule
  have hreads : ¬ rule.ReadsSubject := by
    rintro ⟨condition, hcondition, hsubject⟩
    obtain rfl := Option.some.inj hcondition
    simp only [Condition.reads_compare_iff] at hsubject
    revert hsubject
    decide
  have hstored : ((EventStore.database .empty none).append (EventStore.noon 0) (call 42)).1 =
      .ok (Journal.eventOf 1 (EventStore.noon 0) (call 42)).plain := rfl
  have hids : EventTable.empty.nextId = Journal.empty.nextId := rfl
  refine ⟨_, _, rfl, hstored, hreads, ?_⟩
  refine (matchActions_recorded hids rfl hstored [rule]).2 (.inr ?_)
  intro policy hmem
  rwa [List.mem_singleton.mp hmem]

/-- A rule about one caller asks for nothing any more once events are recorded in a table. -/
theorem matchActions_recorded_ne :
    let rule := callRule (.compare .equal (.path "subject_id") (.literal (.ofInt 42)))
    ∃ kept stored,
      ((EventStore.memory .empty).append (EventStore.noon 0) (call 42)).1 = .ok kept ∧
      ((EventStore.database .empty none).append (EventStore.noon 0) (call 42)).1 = .ok stored ∧
      matchActions kept [rule] = rule.actions ∧ matchActions stored [rule] = [] := by
  refine ⟨_, _, rfl, rfl, ?_, ?_⟩
  · decide +kernel
  · decide +kernel

end Policy

end Automation
