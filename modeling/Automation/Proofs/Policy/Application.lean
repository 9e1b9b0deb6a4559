import Automation.Policy.Matcher
import Automation.Proofs.Condition.Document
import Automation.Proofs.Validation.Field

/-!
# When policies apply

Whether a policy applies to an event can be told from its document: the event type has to fit the
pattern, and a condition, if there is one, has to be well-formed and to hold as it stands. Reading
the document into a policy first comes to the same, the conditions that could not be read included.

## Main definitions

* `PolicyDocument.Fits` — an event type fits a pattern.
* `PolicyDocument.Applies` — a policy document applies to an event.

## Main statements

* `Policy.typeMatches_iff` — patterns are matched as they should be.
* `PolicyDocument.applies_as_written` — a policy applies exactly when its document does, and no
  broken condition keeps a document from being accepted.
-/

namespace Automation

open ConditionDocument

namespace PolicyDocument

/-- An event type fits a pattern: it is the pattern, the pattern is a star, or it begins with what
stands in front of a final star. -/
def Fits (eventType pattern : String) : Prop :=
  eventType = pattern ∨ pattern = "*" ∨
    ∃ front rest : String, pattern = front ++ "*" ∧ eventType = front ++ rest

/-- A policy document applies to an event: the event type fits its pattern, and its condition is
missing, `null`, or well-formed and true of the event. -/
structure Applies (document : Json) (event : Event) : Prop where
  pattern : ∃ pattern, document.get? "event_type" = some (.str pattern) ∧ Fits event.type pattern
  condition : ∀ condition, document.get? "condition" = some condition → condition ≠ .null →
    WellFormed condition ∧ Holds event.root condition

end PolicyDocument

open PolicyDocument

namespace Policy

/-! ## Patterns -/

theorem typeMatches_iff {eventType pattern : String} :
    typeMatches eventType pattern = true ↔ Fits eventType pattern := by
  unfold typeMatches Fits
  split
  next front hpattern =>
    have hpattern : pattern = String.ofList front.reverse ++ "*" := by
      rw [← String.toList_inj, ← List.reverse_inj, hpattern]
      simp
    subst hpattern
    simp only [List.isPrefixOf_iff_prefix]
    constructor
    · rintro ⟨rest, hrest⟩
      exact .inr (.inr ⟨_, String.ofList rest, rfl, by simp [← String.toList_inj, hrest]⟩)
    · rintro (rfl | hstar | ⟨front', rest, hfront, rfl⟩)
      · simp
      · have : front = [] := by simpa [← String.toList_inj] using hstar
        simp [this]
      · have : front.reverse = front'.toList := by simpa [← String.toList_inj] using hfront
        simp [this]
  next hpattern =>
    -- a pattern without a final star is fitted by itself alone
    have hnone : ∀ front : String, pattern ≠ front ++ "*" := by
      rintro front rfl
      exact hpattern front.toList.reverse (by simp)
    have hstar : pattern ≠ "*" := by simpa using hnone ""
    simp [hnone, hstar]

/-! ## Reading policies -/

/-- A condition document is read into its condition, or kept in one that never holds. -/
theorem exists_readCondition (document : Json) :
    ∃ condition, readCondition document = .ok condition ∧
      (Condition.ofDocument document = .ok condition ∨
        ¬ WellFormed document ∧ ∃ reason, condition = .invalid reason document) := by
  unfold readCondition
  split
  next condition hread => exact ⟨condition, rfl, .inl hread⟩
  next e hread =>
    refine ⟨_, rfl, .inr ⟨fun hwell => ?_, _, rfl⟩⟩
    obtain ⟨condition, hcondition⟩ := Condition.exists_ofDocument_iff.mpr hwell
    simp [hread] at hcondition

/-- The condition that was kept of a document holds exactly when the document is well-formed and
holds. -/
theorem evaluate_iff_of_readCondition {document : Json} {condition : Condition}
    (h : readCondition document = .ok condition) (hlegible : Legible document) (root : Json) :
    condition.evaluate root = true ↔ WellFormed document ∧ Holds root document := by
  obtain ⟨condition', hread, hkept⟩ := exists_readCondition document
  obtain rfl : condition = condition' := by simpa [h] using hread
  rcases hkept with hof | ⟨hbroken, reason, rfl⟩
  · rw [Condition.evaluate_iff_holds hof hlegible,
      and_iff_right (Condition.exists_ofDocument_iff.mp ⟨_, hof⟩)]
  · simp [Condition.evaluate, Condition.check, hbroken]

theorem applies_iff {policy : Policy} {event : Event} : policy.applies event = true ↔
    Fits event.type policy.eventType ∧
      ∀ condition ∈ policy.condition?, condition.evaluate event.root = true := by
  rw [applies, Bool.and_eq_true, typeMatches_iff]
  cases policy.condition? <;> simp

/-- What an accepted document has for its members. -/
structure Reads (fields : Json.Members) (policy : Policy) : Prop where
  eventType : fields.lookup "event_type" = some (.str policy.eventType)
  condition : Validation.optional ["condition"] none (Validation.nullable readCondition) fields =
    .ok policy.condition?
  actions : Validation.optional ["actions"] [] (Validation.list Action.ofJson) fields =
    .ok policy.actions
  priority : Validation.optional ["priority"] 0 readPriority fields = .ok policy.priority

theorem ofJson_eq_ok_iff {document : Json} {policy : Policy} : ofJson document = .ok policy ↔
    ∃ fields, document = .obj fields ∧ Reads fields policy := by
  rw [ofJson, Validation.record_eq_ok_iff]
  refine exists_congr fun fields => and_congr_right fun _ => ?_
  simp only [Validated.ap_eq_ok_iff, Validated.accept, Validation.required_eq_ok_iff,
    Validation.text_eq_ok_iff]
  constructor
  · rintro ⟨_, priority, ⟨_, actions, ⟨_, condition, ⟨_, eventType, ⟨rfl⟩, ⟨_, htype, rfl⟩, rfl⟩,
      hcondition, rfl⟩, hactions, rfl⟩, hpriority, rfl⟩
    exact ⟨htype, hcondition, hactions, hpriority⟩
  · rintro ⟨htype, hcondition, hactions, hpriority⟩
    exact ⟨_, _, ⟨_, _, ⟨_, _, ⟨_, _, rfl, ⟨_, htype, rfl⟩, rfl⟩, hcondition, rfl⟩, hactions, rfl⟩,
      hpriority, rfl⟩

/-- Any condition at all can take the place of the one that an accepted document has. -/
theorem Reads.set_condition {fields : Json.Members} {policy : Policy} (h : Reads fields policy)
    {condition : Json} {condition? : Option Condition}
    (hread : Validation.nullable readCondition condition = .ok condition?) :
    Reads (fields.set "condition" condition) { policy with condition? := condition? } := by
  have hkept : ∀ name ≠ "condition",
      (fields.set "condition" condition).lookup name = fields.lookup name := by
    intro name hname
    rw [Json.Members.lookup_set, if_neg hname]
  exact {
    eventType := (hkept _ (by decide)).trans h.eventType
    condition := Validation.optional_eq_ok_iff.mpr
      (.inr ⟨condition, by simp [Json.Members.lookup_set], hread⟩)
    actions := (Validation.optional_congr (hkept _ (by decide))).trans h.actions
    priority := (Validation.optional_congr (hkept _ (by decide))).trans h.priority }

/-- The condition of a policy holds exactly when its document has none or has one that holds. -/
theorem Reads.condition_iff {fields : Json.Members} {policy : Policy} (h : Reads fields policy)
    (hlegible : ∀ condition, fields.lookup "condition" = some condition → Legible condition)
    (root : Json) : (∀ condition ∈ policy.condition?, condition.evaluate root = true) ↔
      ∀ condition, fields.lookup "condition" = some condition → condition ≠ .null →
        WellFormed condition ∧ Holds root condition := by
  rcases Validation.optional_eq_ok_iff.mp h.condition with
    ⟨habsent, hnone⟩ | ⟨document, hlookup, hread⟩
  · simp [habsent, hnone]
  rcases Validation.nullable_eq_ok_iff.mp hread with
    ⟨rfl, hnone⟩ | ⟨hnull, condition, hcondition, hsome⟩
  · simp [hlookup, hnone]
  · simp [hlookup, hsome, hnull,
      evaluate_iff_of_readCondition hcondition (hlegible document hlookup) root]

/-- A broken condition is kept in a policy that never applies. -/
theorem exists_never_applies {fields : Json.Members} {policy : Policy} (h : Reads fields policy)
    {condition : Json} (hnull : condition ≠ .null) (hbroken : ¬ WellFormed condition) :
    ∃ policy', Reads (fields.set "condition" condition) policy' ∧
      ∀ event, policy'.applies event = false := by
  obtain ⟨kept, hread, hof | ⟨-, reason, rfl⟩⟩ := exists_readCondition condition
  · exact absurd (Condition.exists_ofDocument_iff.mp ⟨kept, hof⟩) hbroken
  refine ⟨_, h.set_condition (Validation.nullable_eq_ok_iff.mpr (.inr ⟨hnull, _, hread, rfl⟩)),
    fun event => ?_⟩
  simp [applies, Condition.evaluate, Condition.check]

end Policy

namespace PolicyDocument

open Policy

/-- A policy applies to an event exactly when its document does, as it stands. A document that is
accepted stays so with any other condition; where a part of that condition is broken, however deep
and whether or not it would be looked at, the policy applies to nothing. -/
theorem applies_as_written {document : Json} {policy : Policy}
    (haccepted : Policy.ofJson document = .ok policy)
    (hlegible : ∀ condition, document.get? "condition" = some condition → Legible condition) :
    (∀ event, policy.applies event = true ↔ Applies document event) ∧
      ∀ (fields : Json.Members) (condition part : Json), document = .obj fields →
        condition ≠ .null → Part part condition → ¬ WellFormed part →
        ∃ policy', Policy.ofJson (.obj (fields.set "condition" condition)) = .ok policy' ∧
          ∀ event, policy'.applies event = false := by
  obtain ⟨fields, rfl, hreads⟩ := ofJson_eq_ok_iff.mp haccepted
  constructor
  · intro event
    rw [Policy.applies_iff, hreads.condition_iff hlegible]
    constructor
    · rintro ⟨hfits, hcondition⟩
      exact ⟨⟨_, hreads.eventType, hfits⟩, hcondition⟩
    · rintro ⟨⟨pattern, hpattern, hfits⟩, hcondition⟩
      obtain rfl : pattern = policy.eventType := by
        simpa [Json.get?, hreads.eventType, eq_comm] using hpattern
      exact ⟨hfits, hcondition⟩
  · rintro fields' condition part hsame hnull hpart hbroken
    obtain rfl : fields = fields' := by simpa using hsame
    obtain ⟨policy', hreads', hnever⟩ :=
      exists_never_applies hreads hnull fun hwell => hbroken (hwell.of_part hpart)
    exact ⟨policy', ofJson_eq_ok_iff.mpr ⟨_, rfl, hreads'⟩, hnever⟩

/-- A condition that holds of large orders that were paid for. -/
def paidInFull : Json := .obj [("and", .arr [
  .obj [("var", .str "payload.paid")],
  .obj [(">=", .arr [.obj [("var", .arr [.str "payload.total"])], .ofNat 100])]])]

theorem legible_paidInFull : Legible paidInFull := by
  have hpaid : Json.Path.Legible "payload.paid" := by unfold Json.Path.Legible; decide
  have htotal : Json.Path.Legible "payload.total" := by unfold Json.Path.Legible; decide
  simp [paidInFull, legible_group_iff, legible_path, legible_literal, pathText?, hpaid, htotal,
    Json.ofNat]

theorem applies_as_written_paidInFull :
    let document := .obj [("event_type", .str "order.*"), ("condition", paidInFull)]
    ∃ policy, Policy.ofJson document = .ok policy ∧
      ∀ event, policy.applies event = true ↔ Applies document event := by
  refine ⟨_, rfl, (applies_as_written rfl fun condition hcondition => ?_).1⟩
  obtain rfl := Option.some.inj hcondition
  exact legible_paidInFull

end PolicyDocument

end Automation
