import Automation.Proofs.Json.Finite
import Automation.Proofs.Service.Containment
import Automation.Proofs.Text.Split
import Automation.Simulation.Api

/-!
# Requests and what they do

A request is refused when it is received, or met at once, or done in a task of the service; in the
last case it is answered when the task is over. Requests arrive at any time, and their tasks are
interleaved with each other and with everything else that happens in the service.

A request to sync or to execute actions is answered with another status than 200 if it is refused
or if there is no client for its tenant. In both cases nothing was done for it. There is one case
more: a sync whose failures are told in lines that hold half of a surrogate pair has done all that
it could, but its answer cannot go out, and the request is answered as one that fails unforeseen.

## Main definitions

* `Gateway`, `GatewayMove` — a deployment with the requests that it has received, and what can
  happen to it.
* `ApiRequest.answerTo`, `Gateway.answer?` — the answer to a request.
* `Gateway.Unanswerable` — a sync is over whose answer cannot go out.
* `Gateway.Contained` — what failures do to jobs and to requests for jobs.

## Main statements

* `Simulation.serve_fst` — requests that are served one after another are answered alike.
* `Gateway.contained_run` — failures are contained in every run, except for what an unanswerable sync
  has done.
-/

namespace Automation

/-! ## Requests for jobs -/

/-- A request to sync or to execute actions. -/
def ApiRequest.IsJob (request : ApiRequest) : Prop :=
  request.method = "POST" ∧ (request.path = "/sync" ∨ request.path = "/actions")

/-- Requests for jobs come to endpoints of their own. -/
theorem ApiRequest.IsJob.find {request : ApiRequest} (h : request.IsJob) :
    Endpoint.find request.method request.path = .ok .sync ∨
      Endpoint.find request.method request.path = .ok .actions := by
  obtain ⟨hmethod, hpath | hpath⟩ := h
  · rw [hmethod, hpath]
    exact .inl (by decide)
  · rw [hmethod, hpath]
    exact .inr (by decide)

/-- What requests for jobs ask for. -/
theorem ApiRequest.IsJob.demands {request : ApiRequest} (h : request.IsJob) {demand : Demand}
    (hdemand : request.demand = .ok demand) :
    (∃ asked, demand = .sync asked) ∨ ∃ asked, demand = .actions asked := by
  have hread : ∀ endpoint, Endpoint.find request.method request.path = .ok endpoint →
      request.demandAt endpoint = .ok demand := by
    intro endpoint hfind
    rw [ApiRequest.demand, hfind] at hdemand
    exact hdemand
  rcases h.find with h | h
  · obtain ⟨asked, -, rfl⟩ := map_eq_ok_iff.mp (hread _ h)
    exact .inl ⟨asked, rfl⟩
  · obtain ⟨asked, -, rfl⟩ := map_eq_ok_iff.mp (hread _ h)
    exact .inr ⟨asked, rfl⟩

/-- A request for a job asks for one, and deserves a good answer for it. -/
theorem ApiRequest.IsJob.exists_job {request : ApiRequest} (h : request.IsJob) {demand : Demand}
    (hdemand : request.demand = .ok demand) :
    (∃ job, demand.call? = some (.job job)) ∧
      ∀ settings result, (demand.answer settings result).status = 200 := by
  obtain ⟨asked, rfl⟩ | ⟨asked, rfl⟩ := h.demands hdemand
  · exact ⟨⟨_, rfl⟩, fun _ _ => rfl⟩
  · exact ⟨⟨_, rfl⟩, fun _ _ => rfl⟩

/-! ## Requests with a JSON text -/

namespace ApiRequest

/-- A request that submits a JSON text. -/
def submission (path body : String) : ApiRequest :=
  ⟨"POST", path, [], some "application/json", body⟩

theorem carriesJson_submission (path body : String) : (submission path body).carriesJson = true := by
  have hlower : Text.lower (String.ofList (Text.trimBlanks Text.isBlank
      ("application/json".toList.takeWhile (· != ';')))) = "application/json" := by
    decide +kernel
  have hmedia : mediaType? "application/json" = some ("application", "json") := by
    simp only [mediaType?, hlower, Text.splitOn_slash]
    decide +kernel
  simp [carriesJson, submission, hmedia]

theorem document?_submission {path body : String} {value : Json} (hne : body ≠ "")
    (hplain : Json.decode? body = some body) (hread : Json.readChars body.toList = .ok value) :
    (submission path body).document? = .ok (some value) := by
  have hbody : (submission path body).body = body := rfl
  rw [document?, carriesJson_submission, hbody, if_neg hne, if_pos rfl, hplain]
  dsimp only
  rw [hread]

end ApiRequest

/-! ## Answers that can go out -/

theorem ApiAnswer.isSendable_data (status : Nat) (data : Json) :
    (ApiAnswer.data status data).isSendable = data.isSendable := by
  have hkey : Text.hasHalf "data" = false := by decide
  rw [Bool.eq_iff_iff, isSendable, ApiAnswer.data, Option.all_some, Json.isSendable_obj_iff,
    List.forall_mem_singleton]
  exact and_iff_right hkey

/-- What a sync has come to can go out unless it tells of a failure with half of a surrogate
pair. -/
theorem SyncResult.isSendable_toJson (result : SyncResult) :
    result.toJson.isSendable = true ↔ ∀ line ∈ result.errors, Text.hasHalf line = false := by
  have herrors : (LabelDelta.textsJson result.errors).isSendable = true ↔
      ∀ line ∈ result.errors, Text.hasHalf line = false := by
    rw [LabelDelta.textsJson, Json.isSendable_arr_iff, List.forall_mem_map]
    simp only [Json.isSendable_str, Bool.not_eq_true']
  rw [← herrors, toJson, Json.isSendable_obj_iff]
  simp only [List.forall_mem_cons, List.not_mem_nil, IsEmpty.forall_iff, implies_true, and_true]
  exact ⟨fun h => h.2.2.2.2, fun h => ⟨⟨rfl, rfl⟩, ⟨rfl, rfl⟩, ⟨rfl, rfl⟩, rfl, h⟩⟩

/-- The answer about a job can go out unless it is about a sync that tells of a failure with half of
a surrogate pair. -/
theorem ApiRequest.IsJob.isSendable_answer {request : ApiRequest} (h : request.IsJob)
    {demand : Demand} (hdemand : request.demand = .ok demand) (settings : Settings)
    (result : JobResult) : (demand.answer settings (.job result)).isSendable = true ↔
      ∀ asked synced, demand = .sync asked → result = .synced synced →
        ∀ line ∈ synced.errors, Text.hasHalf line = false := by
  rcases h.demands hdemand with ⟨asked, rfl⟩ | ⟨asked, rfl⟩
  · rw [Demand.answer, ApiAnswer.isSendable_data]
    cases result with
    | synced synced =>
      rw [ServiceResult.data, SyncResult.isSendable_toJson]
      constructor
      · rintro hlines _ _ - ⟨⟩
        exact hlines
      · exact fun hlines => hlines asked synced rfl rfl
    | acted | client _ | disposed => exact iff_of_true rfl (by simp)
  · exact iff_of_true rfl (by simp)

/-! ## Requests and their tasks -/

/-- A request as it was received, with the task in which it is done, if it takes one. -/
structure Receipt where
  request : ApiRequest
  task? : Option Nat

/-- A deployment with the requests that it has received. -/
structure Gateway where
  site : Deployment
  receipts : List Receipt

/-- What can happen to a deployment that receives requests. -/
inductive GatewayMove where
  | service (move : ServiceMove)
  | receive (request : ApiRequest)

/-- What happens in the service for a demand: a task is started, or the cache of messages is cleared
at once. -/
def Demand.sets (demand : Demand) : List ServiceMove :=
  match demand.call? with
  | some call => [.ask call]
  | none => if demand = .clearCache then [.clearCache] else []

namespace ApiRequest

/-- What happens in the service when a request is received. -/
def sets (request : ApiRequest) : List ServiceMove :=
  (request.demand.toOption.map Demand.sets).getD []

/-- Whether a request is done in a task of its own. -/
def takesTask (request : ApiRequest) : Bool := (request.demand.toOption.bind Demand.call?).isSome

/-- The answer to a request whose demand has had an outcome. -/
def answerTo (settings : Settings) (request : ApiRequest) (demand : Demand)
    (outcome : Except Failure ServiceResult) : ApiAnswer :=
  (request.concluded settings demand outcome).1

end ApiRequest

namespace Gateway

/-- What happens in the service with a move. -/
def moves : GatewayMove → List ServiceMove
  | .service move => [move]
  | .receive request => request.sets

/-- The deployment and its requests after a move. -/
def step (gateway : Gateway) (move : GatewayMove) : Gateway where
  site := gateway.site.run (moves move)
  receipts :=
    match move with
    | .service _ => gateway.receipts
    | .receive request => gateway.receipts ++
        [⟨request, if request.takesTask then some gateway.site.tasks.length else none⟩]

/-- The deployment and its requests after moves in a row. -/
def run (gateway : Gateway) (all : List GatewayMove) : Gateway := all.foldl step gateway

/-- The steps of the service in a run, in order. -/
def history (gateway : Gateway) (all : List GatewayMove) : List ServiceStep :=
  gateway.site.steps (all.flatMap moves)

/-- A service in any state, before any task and any request. -/
def initial (setup : ServiceSetup) (service : Service) : Gateway := ⟨⟨setup, service, []⟩, []⟩

/-- The answer to a request that was received, once there is one, in terms of what it asks for. -/
def answerTo? (settings : Settings) (gateway : Gateway) (receipt : Receipt) :
    Except Refusal Demand → Option ApiAnswer
  | .error refusal => some (receipt.request.refused refusal).1
  | .ok demand =>
    match receipt.task? with
    | none => some (receipt.request.answerTo settings demand (.ok .nothing))
    | some id => (gateway.site.result? id).map (receipt.request.answerTo settings demand)

/-- The answer to a request that was received, once there is one. -/
def answer? (settings : Settings) (gateway : Gateway) (receipt : Receipt) : Option ApiAnswer :=
  (gateway.answerTo? settings receipt receipt.request.demand).map receipt.request.sent

end Gateway

/-- A request that is served alone gets the answer to the outcome of its demand. -/
theorem Simulation.serve_fst (settings : Settings) (request : ApiRequest) (sim : Simulation) :
    (sim.serve settings request).1 =
      (match request.demand with
        | .error refusal => some (request.refused refusal).1
        | .ok demand => (sim.meet demand).1.map (request.answerTo settings demand)).map
          request.sent := by
  rw [serve, respond]
  cases request.demand with
  | error refusal => rfl
  | ok demand =>
    rcases hmeet : sim.meet demand with ⟨_ | outcome, after⟩ <;> simp only [hmeet] <;> rfl

namespace Gateway

variable {gateway : Gateway}

/-- A request whose demand takes a call is done in the task of its number, and no other request
has a task. -/
structure Recorded (gateway : Gateway) : Prop where
  tasked : ∀ receipt ∈ gateway.receipts, ∀ demand call, receipt.request.demand = .ok demand →
    demand.call? = some call →
      ∃ id stage, receipt.task? = some id ∧ gateway.site.tasks[id]? = some ⟨call, stage⟩
  untasked : ∀ receipt ∈ gateway.receipts, receipt.request.takesTask = false → receipt.task? = none

/-- No demand takes an application in the background. -/
theorem application?_of_call? {demand : Demand} {call : ServiceCall}
    (h : demand.call? = some call) : call.application? = none := by
  cases demand <;> cases h <;> rfl

theorem sets_of_call? {demand : Demand} {call : ServiceCall} (h : demand.call? = some call) :
    demand.sets = [.ask call] := by
  rw [Demand.sets, h]

theorem Recorded.step (h : gateway.Recorded) (move : GatewayMove) :
    (gateway.step move).Recorded := by
  have htasks : ∀ receipt ∈ gateway.receipts, ∀ demand call,
      receipt.request.demand = .ok demand → demand.call? = some call →
        ∃ id stage, receipt.task? = some id ∧
          (gateway.step move).site.tasks[id]? = some ⟨call, stage⟩ := by
    intro receipt hreceipt demand call hdemand hcall
    obtain ⟨id, stage, hid, htask⟩ := h.tasked receipt hreceipt demand call hdemand hcall
    obtain ⟨stage, htask⟩ := Deployment.call_run htask (moves move)
    exact ⟨id, stage, hid, htask⟩
  cases move with
  | service move => exact ⟨htasks, h.untasked⟩
  | receive request =>
    refine ⟨fun receipt hreceipt demand call hdemand hcall => ?_, fun receipt hreceipt hno => ?_⟩
    · rcases List.mem_append.mp hreceipt with hreceipt | hreceipt
      · exact htasks receipt hreceipt demand call hdemand hcall
      · -- the task of the new request comes behind all others
        rw [List.mem_singleton.mp hreceipt] at hdemand ⊢
        replace hdemand : request.demand = .ok demand := hdemand
        have htakes : request.takesTask = true := by
          rw [ApiRequest.takesTask, hdemand]
          exact Option.isSome_iff_exists.mpr ⟨call, hcall⟩
        have hmoves : moves (.receive request) = [.ask call] := by
          rw [moves, ApiRequest.sets, hdemand]
          exact sets_of_call? hcall
        refine ⟨gateway.site.tasks.length, .scheduled, if_pos htakes, ?_⟩
        rw [Gateway.step, hmoves]
        change (gateway.site.shift (.ask call)).tasks[_]? = _
        rw [Deployment.shift, application?_of_call? hcall]
        exact List.getElem?_concat_length
    · rcases List.mem_append.mp hreceipt with hreceipt | hreceipt
      · exact h.untasked receipt hreceipt hno
      · rw [List.mem_singleton.mp hreceipt] at hno ⊢
        exact if_neg (ne_true_of_eq_false hno)

theorem recorded_initial (setup : ServiceSetup) (service : Service) :
    (initial setup service).Recorded where
  tasked := by
    intro receipt hreceipt
    cases hreceipt
  untasked := by
    intro receipt hreceipt
    cases hreceipt

theorem Recorded.run (h : gateway.Recorded) (all : List GatewayMove) :
    (gateway.run all).Recorded := by
  induction all generalizing gateway with
  | nil => exact h
  | cons move rest ih => exact ih (h.step move)

theorem site_run (all : List GatewayMove) :
    (gateway.run all).site = gateway.site.run (all.flatMap moves) := by
  induction all generalizing gateway with
  | nil => rfl
  | cons move rest ih => rw [List.flatMap_cons, Deployment.run_append]; exact ih

/-! ## Failures -/

/-- The sync that a request asks for is over, but it cannot be answered with what it has come to: a
line about a failure holds half of a surrogate pair. -/
def Unanswerable (gateway : Gateway) (receipt : Receipt) : Prop :=
  ∃ asked id result, receipt.request.demand = .ok (.sync asked) ∧ receipt.task? = some id ∧
    gateway.site.result? id = some (.ok (.job (.synced result))) ∧
    ∃ line ∈ result.errors, Text.hasHalf line = true

/-- What failures do to jobs and to requests for jobs, after some steps. Calls to the outside, to
the platform, to webhooks and to handlers, are requests of a task other than for its tenant. -/
structure Contained (settings : Settings) (history : List ServiceStep) (gateway : Gateway) :
    Prop where
  /-- A job that has failed was refused a client, as its tenant was unknown or no client could be
  made for it. It has changed nothing and has asked for nothing but its tenant. -/
  failed : ∀ id job failure,
    gateway.site.tasks[id]? = some ⟨.job job, .reached (.finished (.error failure))⟩ →
      (∃ s ∈ history, s.task? = some id ∧ s.before.refusal? job.tenantId = some failure) ∧
        Deployment.Untouched history id job.tenantId
  /-- A request for a job changes nothing when it is received. -/
  received : ∀ request : ApiRequest, request.IsJob →
    (gateway.step (.receive request)).site.service = gateway.site.service
  /-- A request for a job with another answer than 200 was refused when it was received and has no
  task, or its job was refused a client, has changed nothing and has asked for nothing but its
  tenant, unless it asks for a sync that is over and cannot be answered. -/
  declined : ∀ receipt ∈ gateway.receipts, receipt.request.IsJob → ∀ answer,
    gateway.answer? settings receipt = some answer → answer.status ≠ 200 →
      ((∃ refusal, receipt.request.demand = .error refusal) ∧ receipt.task? = none) ∨
      (∃ id tenantId failure, receipt.task? = some id ∧
        (∃ s ∈ history, s.task? = some id ∧ s.before.refusal? tenantId = some failure) ∧
        Deployment.Untouched history id tenantId) ∨
      gateway.Unanswerable receipt
  /-- Once the job of a request has asked for anything but its tenant, the answer can only be 200,
  whatever becomes of its calls, unless it asks for a sync that cannot be answered. -/
  met : ∀ receipt ∈ gateway.receipts, receipt.request.IsJob → ¬gateway.Unanswerable receipt →
    ∀ id, receipt.task? = some id →
    (∃ s ∈ history, s.task? = some id ∧ ∃ asked, s.request? = some asked ∧
      ∀ tenantId, asked ≠ .lookup tenantId) →
    ∀ answer, gateway.answer? settings receipt = some answer → answer.status = 200
  /-- A request for a sync that cannot be answered is answered as one that fails unforeseen. -/
  unanswered : ∀ receipt ∈ gateway.receipts, receipt.request.IsJob →
    gateway.Unanswerable receipt → gateway.answer? settings receipt = some .unforeseen
  /-- Where only so many attempts are allowed, the job of a request has no more turns than it takes
  at most, and it is over when it has had all of them; turns in which it looks in vain for the
  message of another task are not counted. -/
  ends : ∀ limit, gateway.site.setup.engine.retry.StopsAt limit →
    ∀ receipt ∈ gateway.receipts, receipt.request.IsJob → ∀ id, receipt.task? = some id →
      ∃ job stage, gateway.site.tasks[id]? = some ⟨.job job, stage⟩ ∧
        Deployment.turnsTaken history id ≤ job.turns limit ∧
        (stage.isOver = false → Deployment.turnsTaken history id < job.turns limit)

variable {settings : Settings} {history : List ServiceStep}

theorem service_of_receive {request : ApiRequest} (h : request.IsJob) :
    (gateway.step (.receive request)).site.service = gateway.site.service := by
  have hsets : request.sets = [] ∨ ∃ job, request.sets = [.ask (.job job)] := by
    rw [ApiRequest.sets]
    cases hdemand : request.demand with
    | error refusal => exact .inl rfl
    | ok demand =>
      obtain ⟨⟨job, hcall⟩, -⟩ := h.exists_job hdemand
      exact .inr ⟨job, sets_of_call? hcall⟩
  rw [step, moves]
  rcases hsets with hsets | ⟨job, hsets⟩
  · rw [hsets]
    rfl
  · rw [hsets]
    rfl

/-- A request for a job has a task for it. -/
theorem Recorded.exists_job (h : gateway.Recorded) {receipt : Receipt}
    (hreceipt : receipt ∈ gateway.receipts) (hjob : receipt.request.IsJob) {demand : Demand}
    (hdemand : receipt.request.demand = .ok demand) :
    ∃ id job stage, receipt.task? = some id ∧
      gateway.site.tasks[id]? = some ⟨.job job, stage⟩ := by
  obtain ⟨⟨job, hcall⟩, -⟩ := hjob.exists_job hdemand
  obtain ⟨id, stage, hid, htask⟩ := h.tasked receipt hreceipt demand _ hdemand hcall
  exact ⟨id, job, stage, hid, htask⟩

/-- The answer to a request comes of the end of its task. -/
theorem answer?_of_task {receipt : Receipt} {demand : Demand} {id : Nat}
    (hdemand : receipt.request.demand = .ok demand) (hid : receipt.task? = some id) :
    gateway.answer? settings receipt = ((gateway.site.result? id).map
      (receipt.request.answerTo settings demand)).map receipt.request.sent := by
  rw [answer?, hdemand]
  simp only [answerTo?, hid]

theorem result?_of_task {id : Nat} {call : ServiceCall} {stage : Stage}
    (htask : gateway.site.tasks[id]? = some ⟨call, stage⟩) :
    gateway.site.result? id = stage.result? := by
  rw [Deployment.result?, htask, Option.bind_some]

theorem status_sent (request : ApiRequest) (answer : ApiAnswer) :
    (request.sent answer).status = answer.status := by
  rw [ApiRequest.sent]
  split <;> rfl

/-- The answer about a job that is over is good, unless it is about a sync that cannot be
answered. -/
theorem status_answerTo {receipt : Receipt} (hjob : receipt.request.IsJob) {demand : Demand}
    (hdemand : receipt.request.demand = .ok demand) {id : Nat} (hid : receipt.task? = some id)
    {result : JobResult} (hresult : gateway.site.result? id = some (.ok (.job result)))
    (hanswerable : ¬gateway.Unanswerable receipt) :
    (receipt.request.answerTo settings demand (.ok (.job result))).status = 200 := by
  have hsendable : (demand.answer settings (.job result)).isSendable = true := by
    rw [hjob.isSendable_answer hdemand]
    rintro asked synced rfl rfl line hline
    by_contra hhalf
    exact hanswerable ⟨asked, id, synced, hdemand, hid, hresult, line, hline,
      eq_true_of_ne_false hhalf⟩
  rw [ApiRequest.answerTo, ApiRequest.concluded, ApiRequest.checked, if_pos hsendable]
  exact (hjob.exists_job hdemand).2 settings (.job result)

/-- A sync that cannot be answered fails unforeseen in the end. -/
theorem Unanswerable.answer? {receipt : Receipt} (h : gateway.Unanswerable receipt)
    (hjob : receipt.request.IsJob) : gateway.answer? settings receipt = some .unforeseen := by
  obtain ⟨asked, id, result, hdemand, hid, hresult, line, hline, hhalf⟩ := h
  have hsendable : ¬((Demand.sync asked).answer settings (.job (.synced result))).isSendable = true := by
    rw [hjob.isSendable_answer hdemand]
    intro hlines
    rw [hlines asked result rfl rfl line hline] at hhalf
    cases hhalf
  have hanswer : receipt.request.answerTo settings (.sync asked) (.ok (.job (.synced result))) =
      .unforeseen := by
    rw [ApiRequest.answerTo, ApiRequest.concluded, ApiRequest.checked, if_neg hsendable]
    rfl
  rw [answer?_of_task hdemand hid, hresult, Option.map_some, Option.map_some, hanswer,
    ApiRequest.sent, hjob.1]
  rfl

/-- What is answered to a request for a job, by where its task stands. -/
theorem Recorded.cases_of_answer? (h : gateway.Recorded)
    (hjobs : Deployment.Jobs history gateway.site) {receipt : Receipt}
    (hreceipt : receipt ∈ gateway.receipts) (hjob : receipt.request.IsJob) {answer : ApiAnswer}
    (hanswer : gateway.answer? settings receipt = some answer) :
    ((∃ refusal, receipt.request.demand = .error refusal) ∧ receipt.task? = none) ∨
      ∃ id job, receipt.task? = some id ∧
        ((¬gateway.Unanswerable receipt → answer.status = 200) ∨ ∃ failure,
          Deployment.Stands history id job (.reached (.finished (.error failure)))) := by
  cases hdemand : receipt.request.demand with
  | error refusal =>
    refine .inl ⟨⟨refusal, rfl⟩, h.untasked receipt hreceipt ?_⟩
    rw [ApiRequest.takesTask, hdemand]
    rfl
  | ok demand =>
    obtain ⟨id, job, stage, hid, htask⟩ := h.exists_job hreceipt hjob hdemand
    have hstands := hjobs.stands id job stage htask
    have hresult := result?_of_task htask
    rw [answer?_of_task hdemand hid, hresult] at hanswer
    refine .inr ⟨id, job, hid, ?_⟩
    cases hstands with
    | failed failure untouched refused => exact .inr ⟨failure, .failed failure untouched refused⟩
    | ended result =>
      left
      intro hanswerable
      obtain rfl := Option.some.inj hanswer
      rw [status_sent]
      exact status_answerTo hjob hdemand hid hresult hanswerable
    | scheduled _ | resolving _ | engaged _ _ _ | cancelled => cases hanswer

/-- Where jobs stand as they can, failures are contained. -/
theorem Recorded.contained (h : gateway.Recorded)
    (hjobs : Deployment.Jobs history gateway.site) : Contained settings history gateway where
  failed := by
    intro id job failure htask
    cases hjobs.stands id job _ htask with
    | failed _ untouched refused => exact ⟨refused, untouched⟩
  received := fun request => service_of_receive
  declined := by
    intro receipt hreceipt hjob answer hanswer hstatus
    rcases h.cases_of_answer? hjobs hreceipt hjob hanswer with
      hrefused | ⟨id, job, hid, hgood | ⟨failure, hstands⟩⟩
    · exact .inl hrefused
    · by_contra hother
      rw [not_or, not_or] at hother
      exact hstatus (hgood hother.2.2)
    · cases hstands with
      | failed _ untouched refused =>
        exact .inr (.inl ⟨id, job.tenantId, failure, hid, refused, untouched⟩)
  met := by
    intro receipt hreceipt hjob hanswerable id hid hasked answer hanswer
    rcases h.cases_of_answer? hjobs hreceipt hjob hanswer with
      ⟨-, hnone⟩ | ⟨other, job, hother, hgood | ⟨failure, hstands⟩⟩
    · rw [hnone] at hid
      cases hid
    · exact hgood hanswerable
    · -- a job that has failed has asked for nothing but its tenant
      obtain rfl : other = id := Option.some.inj (hother.symm.trans hid)
      obtain ⟨s, hs, htask, asked, hrequest, hapart⟩ := hasked
      cases hstands with
      | failed _ untouched _ => exact absurd ((untouched s hs htask).2 asked hrequest) (hapart _)
  unanswered := fun _ _ hjob hunanswerable => hunanswerable.answer? hjob
  ends := by
    intro limit hlimit receipt hreceipt hjob id hid
    cases hdemand : receipt.request.demand with
    | error refusal =>
      have hnone := h.untasked receipt hreceipt (by rw [ApiRequest.takesTask, hdemand]; rfl)
      rw [hnone] at hid
      cases hid
    | ok demand =>
      obtain ⟨other, job, stage, hother, htask⟩ := h.exists_job hreceipt hjob hdemand
      obtain rfl : other = id := Option.some.inj (hother.symm.trans hid)
      have hbound := hjobs.bounded limit hlimit other job stage htask
      refine ⟨job, stage, htask, (Nat.le_add_right _ _).trans hbound, fun hover => ?_⟩
      have hleft : 0 < stage.turnsLeft limit job :=
        (hjobs.stands other job stage htask).turnsLeft_pos hover
      exact (Nat.lt_add_of_pos_right hleft).trans_le hbound

/-- In every run, whatever state the service was in and however tasks are interleaved, a failure of
a job means that nothing was attempted, and no other failure gets out of a job. A request for a job
is answered accordingly, unless it asks for a sync that cannot be answered. -/
theorem contained_run (settings : Settings) (setup : ServiceSetup) (service : Service)
    (all : List GatewayMove) :
    Contained settings ((initial setup service).history all)
      ((initial setup service).run all) := by
  have hjobs := Deployment.jobs_run setup service (all.flatMap moves)
  have hsite : ((initial setup service).run all).site =
      (Deployment.mk setup service []).run (all.flatMap moves) := site_run all
  rw [← hsite] at hjobs
  exact ((recorded_initial setup service).run all).contained hjobs

/-! ### A sync that cannot be answered -/

/-- A service with one tenant, which gives up on a call after the first attempt. -/
def shopSetup : ServiceSetup :=
  ⟨⟨{ RetryOptions.standard with maxAttempts := .number (.int 1) }, fun _ => none⟩, true, none,
    ⟨0, 0⟩⟩

def shop : Service :=
  .initial [("t1", ⟨"t1", "", ⟨"https://chat.example.com", "tok", 123⟩, []⟩)] .memory

/-- A sync of a message whose key is half of a surrogate pair. -/
def halfKeySync : ApiRequest :=
  .submission "/sync" ("\x7b\"tenant_id\": \"t1\", \"conversation_id\": 1, \"execution_plan\": " ++
    "\x7b\"persist\": \x7b\"\\ud800\": " ++
    "\x7b\"kind\": \"message\", \"value\": \"Hello\"\x7d\x7d\x7d\x7d")

def halfKeyDocument : Json := .obj [("tenant_id", .str "t1"), ("conversation_id", .ofInt 1),
  ("execution_plan", .obj [("persist", .obj [(Text.ofPoints [0xD800],
    .obj [("kind", .str "message"), ("value", .str "Hello")])])])]

/-- What the request asks for. -/
def halfKeyDemand : SyncRequest :=
  ⟨"t1", 1, ⟨[(Text.ofPoints [0xD800], ⟨.message, .str "Hello"⟩)], .none, [], []⟩⟩

theorem demand_halfKeySync : halfKeySync.demand = .ok (.sync halfKeyDemand) := by
  have hdocument : halfKeySync.document? = .ok (some halfKeyDocument) :=
    ApiRequest.document?_submission (by decide) (by decide +kernel) (by decide +kernel)
  have hfind : Endpoint.find halfKeySync.method halfKeySync.path = .ok .sync := by decide
  rw [ApiRequest.demand, hfind]
  show halfKeySync.demandAt .sync = _
  rw [ApiRequest.demandAt, ApiRequest.readBody, hdocument]
  rfl

/-- The request comes in, its sync starts, and the only attempt to send its message fails. -/
def halfKeyMoves : List GatewayMove := [.receive halfKeySync, .service (.launch 0),
  .service (.resume 0 .done), .service (.resume 0 (.failed (.external "down")))]

/-- What happens in the service with it. -/
def halfKeyCourse : List ServiceMove := [.ask (.job (.sync "t1" (.ofInt 1) halfKeyDemand.plan)),
  .launch 0, .resume 0 .done, .resume 0 (.failed (.external "down"))]

theorem moves_halfKeyMoves : halfKeyMoves.flatMap moves = halfKeyCourse := by
  have hsets : halfKeySync.sets = [.ask (.job (.sync "t1" (.ofInt 1) halfKeyDemand.plan))] := by
    rw [ApiRequest.sets, demand_halfKeySync]
    rfl
  simp only [halfKeyMoves, List.flatMap_cons, moves, hsets, List.flatMap_nil, List.append_nil,
    List.cons_append, List.nil_append, halfKeyCourse]

theorem receipts_halfKeyMoves :
    ((initial shopSetup shop).run halfKeyMoves).receipts = [⟨halfKeySync, some 0⟩] := by
  have htakes : halfKeySync.takesTask = true := by
    rw [ApiRequest.takesTask, demand_halfKeySync]
    rfl
  have hreceived : ((initial shopSetup shop).run halfKeyMoves).receipts =
      [⟨halfKeySync, if halfKeySync.takesTask then some 0 else none⟩] := rfl
  rw [hreceived, htakes]
  rfl

theorem unanswerable_halfKeySync :
    ((initial shopSetup shop).run halfKeyMoves).Unanswerable ⟨halfKeySync, some 0⟩ := by
  have hresult : ((initial shopSetup shop).run halfKeyMoves).site.result? 0 = some (.ok (.job
      (.synced ⟨0, 0, 0, ["Failed to send message '" ++ Text.ofPoints [0xD800] ++ "': down"]⟩))) := by
    rw [site_run, moves_halfKeyMoves]
    rfl
  exact ⟨halfKeyDemand, 0, _, demand_halfKeySync, rfl, hresult, _, List.mem_cons_self, by decide⟩

/-- The message has gone out, and the sync has come to a result that tells of its failure, but the
request is not answered with 200. -/
theorem answer?_halfKeySync : ∃ settings, Settings.load [] [] = .ok settings ∧
    halfKeySync.IsJob ∧
    ((initial shopSetup shop).run halfKeyMoves).receipts = [⟨halfKeySync, some 0⟩] ∧
    (∃ s ∈ (initial shopSetup shop).history halfKeyMoves, s.task? = some 0 ∧
      ∃ client, s.request? = some (.call client (.ofInt 1) (.send "Hello"))) ∧
    ((initial shopSetup shop).run halfKeyMoves).answer? settings ⟨halfKeySync, some 0⟩ =
      some .unforeseen ∧
    ApiAnswer.unforeseen.status ≠ 200 := by
  have hjob : halfKeySync.IsJob := ⟨rfl, .inl rfl⟩
  refine ⟨_, rfl, hjob, receipts_halfKeyMoves, ?_, unanswerable_halfKeySync.answer? hjob, by decide⟩
  rw [history, moves_halfKeyMoves]
  exact ⟨_, .tail _ (.tail _ (.head _)), rfl, _, rfl⟩

end Gateway

end Automation
