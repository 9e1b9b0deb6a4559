import Automation.Api.Endpoint
import Automation.Service
import Automation.Sync.Plan

/-!
# What requests ask for

A request that is not refused asks for one thing: for something about the service itself, or for a
call of the service.

## Main definitions

* `Demand` — what can be asked for.
* `ApiRequest.demand` — what a request asks for, or why it is refused.
* `Demand.call?` — the call of the service that it takes.
-/

namespace Automation

open Validation

/-- What a request asks for. -/
inductive Demand where
  | health
  | settings
  | record (draft : EventDraft)
  | query (tenantId : String) (filter : EventFilter)
  | sync (request : SyncRequest)
  | actions (request : ActionsRequest)
  | clearCache
  deriving DecidableEq, Repr

namespace ApiRequest

/-- The fields of a query that make up a filter. -/
def filterFields : List String := ["subject_id", "type", "since", "until"]

/-- The filter in the query of a request. -/
def readFilter (request : ApiRequest) : Except Refusal EventFilter :=
  let fields := filterFields.filterMap fun name =>
    (request.query.last? name).map fun value => (name, Json.str value)
  ((EventFilter.ofJson (.obj fields)).under (.field "query")).mapError .invalid

/-- What a request asks of an endpoint. -/
def demandAt (request : ApiRequest) : Endpoint → Except Refusal Demand
  | .health => .ok .health
  | .settings => .ok .settings
  | .record => (request.readBody EventDraft.ofJson).map .record
  | .query tenantId => request.readFilter.map (.query tenantId)
  | .sync => (request.readBody SyncRequest.ofJson).map .sync
  | .actions => (request.readBody ActionsRequest.ofJson).map .actions
  | .clearCache => .ok .clearCache

/-- What a request asks for, or why it is refused. -/
def demand (request : ApiRequest) : Except Refusal Demand :=
  (Endpoint.find request.method request.path).bind request.demandAt

end ApiRequest

/-- The call of the service that a demand takes; the others are met at once. -/
def Demand.call? : Demand → Option ServiceCall
  | .record draft => some (.record draft)
  | .query tenantId filter => some (.query tenantId (some filter))
  | .sync request => some (.job (.sync request.tenantId (.ofInt request.conversationId)
      request.plan))
  | .actions request => some (.job (.actions request.tenantId (.ofInt request.conversationId)
      request.actions))
  | .health | .settings | .clearCache => none

end Automation
