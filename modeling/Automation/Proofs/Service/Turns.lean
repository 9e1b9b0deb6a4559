import Automation.Proofs.Service.Deployment
import Automation.Proofs.Sync.Clients

/-!
# Turns of the service

An application of policies looks up the tenant of its event, and then executes the actions that the
policies ask for. It fails when the tenant is not found or when no client can be obtained for it,
and for no other reason. Where it runs in the background, nobody but the pipeline learns that.

## Main definitions

* `Application.Fits`, `ServiceProgress.Suits` — where an application and a task of the service can
  stand, and what they wait for there.
* `Service.Deed` — what a turn of a task does about events and failures.

## Main statements

* `Application.failure?_resume` — why an application fails.
* `Application.dispatching_of_resume` — which actions an application executes.
* `Service.deed_start`, `Service.deed_resume`, `Service.deed_record`,
  `Service.deed_ofBackgroundTurn` — what each turn does.
* `Service.suits_start`, `Service.suits_resume` — tasks stand where they can.
-/

namespace Automation

/-! ## Where tasks can be -/

/-- An application of policies to an event stands where it can, and asks for what belongs to it: it
looks up the tenant of the event; or, where actions are dispatched, it executes actions, at least
one, and needs the client of that tenant if any. -/
def Application.Fits (dispatches : Bool) (event : Event) (request : Request) : Application → Prop
  | .lookingUp about => about = event ∧ request = .lookup event.tenantId
  | .dispatching about actions task => about = event ∧ dispatches = true ∧ actions ≠ [] ∧
      task.Asks request ∧ ∀ job, task = .resolving job → job.tenantId = event.tenantId

/-- A task runs no application in the background. -/
def ServiceProgress.Apart (progress : ServiceProgress) : Prop :=
  ∀ number event application request,
    progress ≠ .waiting (.background number event application) request

/-- A task that records an event or runs an application stands where it can, and no other task runs
an application. One that does gives nothing away when it ends. -/
def ServiceProgress.Suits (dispatches : Bool) : ServiceCall → ServiceProgress → Prop
  | .record draft, .waiting task _ => task = .recording draft
  | .record _, .finished _ => True
  | .background number event, .waiting task request => ∃ application,
      task = .background number event application ∧ application.Fits dispatches event request
  | .background _ _, .finished result => result = .ok .nothing
  | _, progress => progress.Apart

theorem ServiceProgress.Suits.eq_background {dispatches : Bool} {call : ServiceCall}
    {number : Nat} {event : Event} {application : Application} {request : Request}
    (h : (ServiceProgress.waiting (.background number event application) request).Suits dispatches
      call) :
    call = .background number event ∧ application.Fits dispatches event request := by
  cases call with
  | background number' event' =>
    obtain ⟨application', heq, hfits⟩ := h
    cases heq
    exact ⟨rfl, hfits⟩
  | record draft => cases h
  | job _ | dispose | find _ | apply _ | query _ _ | drain => exact absurd rfl (h _ _ _ _)

/-- The failure that an application has ended with. -/
def ApplicationTurn.failure? (turn : ApplicationTurn) : Option Failure :=
  match turn.progress with
  | .finished (.error failure) => some failure
  | .waiting .. | .finished (.ok _) => none

/-! ## Turns -/

/-- What a turn of a task does about events and failures, in terms of what the store has answered
and of the failure that an application has ended with: nothing; or it records an event, schedules
one application for it and ends with the event; or it ends with the failure of the store; or the
failure of an application is kept, and nothing else becomes of it. -/
inductive Service.Deed (service : Service) (limit? : Option Nat) (call : ServiceCall)
    (turn : ServiceTurn) : Option (Except Failure Event) → Option (Event × Failure) → Prop
  | passes (scheduled : turn.scheduled = [])
      (failures : turn.service.pipeline.failures = service.pipeline.failures)
      (waits : ∀ draft, call = .record draft →
        ∃ task request, turn.progress = .waiting task request) :
      Deed service limit? call turn none none
  | records (number : Nat) (event : Event) (scheduled : turn.scheduled = [(number, event)])
      (failures : turn.service.pipeline.failures = service.pipeline.failures)
      (progress : turn.progress = .finished (.ok (.event event))) :
      Deed service limit? call turn (some (.ok event)) none
  | rejects (failure : Failure) (scheduled : turn.scheduled = [])
      (failures : turn.service.pipeline.failures = service.pipeline.failures)
      (progress : turn.progress = .finished (.error failure)) :
      Deed service limit? call turn (some (.error failure)) none
  | raises (event : Event) (failure : Failure) (apart : ∀ draft, call ≠ .record draft)
      (scheduled : turn.scheduled = [])
      (failures : turn.service.pipeline.failures = Pipeline.latest limit?
        (service.pipeline.failures ++ [Pipeline.failureOf event failure]))
      (progress : turn.progress = .finished (.ok .nothing)) :
      Deed service limit? call turn none (some (event, failure))

namespace Service

variable {setup : ServiceSetup} {service : Service} {limit? : Option Nat} {call : ServiceCall}

theorem Deed.withEntries {turn : ServiceTurn} {stored? : Option (Except Failure Event)}
    {raised? : Option (Event × Failure)} (h : service.Deed limit? call turn stored? raised?)
    (entries : List LogEntry) :
    service.Deed limit? call { turn with entries } stored? raised? := by
  cases h with
  | passes scheduled failures waits => exact .passes scheduled failures waits
  | records number event scheduled failures progress =>
    exact .records number event scheduled failures progress
  | rejects failure scheduled failures progress =>
    exact .rejects failure scheduled failures progress
  | raises event failure apart scheduled failures progress =>
    exact .raises event failure apart scheduled failures progress

theorem deed_record (draft : EventDraft) :
    service.Deed limit? call (record setup service draft)
      (some (service.store.append setup.now draft).1) none := by
  rcases hstore : service.store.append setup.now draft with ⟨_ | event, store⟩
  · simp only [record, hstore]
    exact .rejects _ rfl rfl rfl
  · simp only [record, hstore]
    exact .records _ _ rfl rfl rfl

theorem deed_ofBackgroundTurn (number : Nat) (event : Event) (turn : ApplicationTurn)
    (hcall : ∀ draft, call ≠ .record draft) :
    service.Deed setup.maxFailures? call (ofBackgroundTurn setup service number event turn) none
      (turn.failure?.map (event, ·)) := by
  rcases turn with ⟨engine, entries, ⟨application, request⟩ | (failure | actions)⟩
  · exact .passes rfl rfl fun draft h => absurd h (hcall draft)
  · exact .raises event failure hcall rfl rfl rfl
  · exact .passes rfl rfl fun draft h => absurd h (hcall draft)

theorem deed_start (hcall : ∀ draft, call ≠ .record draft) :
    service.Deed setup.maxFailures? call (service.start setup call) none none := by
  have hwaits : ∀ (turn : ServiceTurn) (draft : EventDraft), call = .record draft →
      ∃ task request, turn.progress = .waiting task request :=
    fun _ draft h => absurd h (hcall draft)
  cases call with
  | record draft => exact absurd rfl (hcall draft)
  | job _ | dispose | find _ | apply _ | background _ _ => exact .passes rfl rfl (hwaits _)
  | query tenantId filter? =>
    rw [start]
    split
    · exact .passes rfl rfl (hwaits _)
    · exact .passes rfl rfl (hwaits _)
  | drain =>
    rw [start, drain]
    split
    · exact .passes rfl rfl (hwaits _)
    · exact .passes rfl rfl (hwaits _)

theorem deed_resume {task : ServiceTask} {answer : Answer}
    (hcall : ∀ draft, call ≠ .record draft) (hrecord : ∀ draft, task ≠ .recording draft)
    (hbackground : ∀ number event application, task ≠ .background number event application) :
    service.Deed setup.maxFailures? call (service.resume setup task answer) none none := by
  have hwaits : ∀ (turn : ServiceTurn) (draft : EventDraft), call = .record draft →
      ∃ task request, turn.progress = .waiting task request :=
    fun _ draft h => absurd h (hcall draft)
  cases task with
  | recording draft => exact absurd rfl (hrecord draft)
  | background number event application => exact absurd rfl (hbackground number event application)
  | engine _ | applying _ | querying _ _ => exact .passes rfl rfl (hwaits _)
  | finding tenantId => cases answer <;> exact .passes rfl rfl (hwaits _)
  | draining =>
    rw [resume, drain]
    split
    · exact .passes rfl rfl (hwaits _)
    · exact .passes rfl rfl (hwaits _)

end Service

/-! ## What tasks wait for -/

namespace Application

variable {setup? : Option EngineSetup} {engine : Engine} {event : Event}

theorem fits_dispatched (hsetup : setup?.isSome = true) {actions : List Action}
    (hactions : actions ≠ []) {turn : Turn}
    (hasks : turn.progress.Asks)
    (hresolves : ∀ job, turn.progress.resolves? = some job → job.tenantId = event.tenantId)
    {application : Application} {request : Request}
    (h : (dispatched event actions turn).progress = .waiting application request) :
    application.Fits setup?.isSome event request := by
  rcases turn with ⟨engine, entries, ⟨task, asked⟩ | (failure | result)⟩
  · cases h
    refine ⟨rfl, hsetup, hactions, hasks, ?_⟩
    rintro job rfl
    exact hresolves job rfl
  · cases h
  · cases h

theorem fits_proceed {tenant : Tenant} {application : Application} {request : Request}
    (h : (proceed setup? engine event tenant).progress = .waiting application request) :
    application.Fits setup?.isSome event request := by
  unfold proceed at h
  dsimp only at h
  by_cases hactions : Policy.matchActions event tenant.policies = []
  · rw [if_pos (List.isEmpty_iff.mpr hactions)] at h
    cases h
  · rw [if_neg (mt List.isEmpty_iff.mp hactions)] at h
    cases setup? with
    | none => cases h
    | some setup =>
      refine fits_dispatched rfl hactions ?_ (fun job hjob => ?_) h
      · exact Engine.asks_start _
      · rw [Engine.resolves?_start hjob]
        rfl

theorem failure?_dispatched (actions : List Action) (turn : Turn) :
    (dispatched event actions turn).failure? = turn.progress.failure? := by
  rcases turn with ⟨engine, entries, ⟨task, request⟩ | (failure | result)⟩ <;> rfl

theorem failure?_proceed (tenant : Tenant) :
    (proceed setup? engine event tenant).failure? = none := by
  unfold proceed
  dsimp only
  split
  · rfl
  · split
    · rfl
    · rw [failure?_dispatched]
      exact Engine.failure?_start _

/-- An application fails when its tenant is not found, or when its actions need a client and get
none. -/
theorem failure?_resume (application : Application) (answer : Answer) :
    (application.resume setup? engine answer).failure? =
      match application, answer with
      | .lookingUp _, .failed failure => some failure
      | .lookingUp _, _ => none
      | .dispatching _ _ task, answer =>
        setup?.bind fun setup => Engine.refusal? setup task answer := by
  cases application with
  | lookingUp about =>
    cases answer with
    | found tenant => exact failure?_proceed tenant
    | failed failure => rfl
    | done => rfl
  | dispatching about actions task =>
    cases setup? with
    | none => rfl
    | some setup =>
      rw [resume, failure?_dispatched]
      exact Engine.failure?_resume task answer

/-- The actions that an application executes are those that the policies of its tenant ask for, as
it has found them. -/
theorem dispatching_of_resume {application : Application} {answer : Answer} {actions : List Action}
    {task : EngineTask} {request : Request}
    (h : (application.resume setup? engine answer).progress =
      .waiting (.dispatching event actions task) request) :
    (∃ tenant, application = .lookingUp event ∧ answer = .found tenant ∧
      actions = Policy.matchActions event tenant.policies) ∨
    ∃ before, application = .dispatching event actions before := by
  have hdispatched : ∀ {about : Event} {asked : List Action} {turn : Turn},
      (dispatched about asked turn).progress = .waiting (.dispatching event actions task) request →
        about = event ∧ asked = actions := by
    rintro about asked ⟨engine, entries, ⟨later, request'⟩ | (failure | result)⟩ hturn
    · cases hturn
      exact ⟨rfl, rfl⟩
    · cases hturn
    · cases hturn
  cases application with
  | lookingUp about =>
    cases answer with
    | failed failure => cases h
    | done => cases h
    | found tenant =>
      rw [resume] at h
      unfold proceed at h
      dsimp only at h
      split at h
      · cases h
      · split at h
        · cases h
        · obtain ⟨rfl, rfl⟩ := hdispatched h
          exact .inl ⟨tenant, rfl, rfl, rfl⟩
  | dispatching about asked before =>
    cases setup? with
    | none => cases h
    | some setup =>
      obtain ⟨rfl, rfl⟩ := hdispatched h
      exact .inr ⟨before, rfl⟩

/-- An application that goes on stands where it can, and asks for what belongs to it. -/
theorem fits_resume {application later : Application} {asked request : Request} {answer : Answer}
    (hfits : application.Fits setup?.isSome event asked)
    (h : (application.resume setup? engine answer).progress = .waiting later request) :
    later.Fits setup?.isSome event request := by
  cases application with
  | lookingUp about =>
    obtain ⟨rfl, -⟩ := hfits
    cases answer with
    | found tenant => exact fits_proceed h
    | failed failure => cases h
    | done =>
      cases h
      exact ⟨rfl, rfl⟩
  | dispatching about actions task =>
    obtain ⟨rfl, -, hactions, -, hjob⟩ := hfits
    cases setup? with
    | none => cases h
    | some setup =>
      refine fits_dispatched rfl hactions (Engine.asks_resume task answer)
        (fun job hresolves => ?_) h
      exact hjob job (Engine.resolves?_resume hresolves)

end Application

namespace Service

variable {setup : ServiceSetup} {service : Service} {call : ServiceCall}

theorem isSome_dispatcher? (setup : ServiceSetup) :
    (dispatcher? setup).isSome = setup.dispatches := by
  rw [dispatcher?]
  cases setup.dispatches <;> rfl

theorem progress_ofBackgroundTurn {number : Nat} {event : Event} {turn : ApplicationTurn}
    {task : ServiceTask} {request : Request}
    (h : (ofBackgroundTurn setup service number event turn).progress = .waiting task request) :
    ∃ application, task = .background number event application ∧
      turn.progress = .waiting application request := by
  rcases turn with ⟨engine, entries, ⟨application, asked⟩ | (failure | actions)⟩
  · cases h
    exact ⟨application, rfl, rfl⟩
  · cases h
  · cases h

theorem lookup_eq_found_iff {tenantId : String} {tenant : Tenant} :
    service.lookup tenantId = .found tenant ↔ service.tenants.lookup tenantId = some tenant := by
  rw [lookup]
  cases service.tenants.lookup tenantId <;> simp

theorem suits_ofBackgroundTurn {number : Nat} {event : Event} {turn : ApplicationTurn}
    (h : ∀ application request, turn.progress = .waiting application request →
      application.Fits setup.dispatches event request) :
    (ofBackgroundTurn setup service number event turn).progress.Suits setup.dispatches
      (.background number event) := by
  rcases turn with ⟨engine, entries, ⟨application, request⟩ | (failure | actions)⟩
  · exact ⟨application, rfl, h application request rfl⟩
  · exact rfl
  · exact rfl

theorem suits_record (draft : EventDraft) :
    (record setup service draft).progress.Suits setup.dispatches (.record draft) := by
  rcases hstore : service.store.append setup.now draft with ⟨_ | event, store⟩
  · simp only [record, hstore]
    trivial
  · simp only [record, hstore]
    trivial

theorem apart_ofEngineTurn (turn : Turn) : (service.ofEngineTurn turn).progress.Apart := by
  rcases turn with ⟨engine, entries, ⟨task, request⟩ | result⟩
  · intro number event application asked h
    cases h
  · intro number event application asked h
    cases h

theorem apart_ofApplicationTurn (turn : ApplicationTurn) :
    (service.ofApplicationTurn turn).progress.Apart := by
  rcases turn with ⟨engine, entries, ⟨task, request⟩ | result⟩
  · intro number event application asked h
    cases h
  · intro number event application asked h
    cases h

theorem apart_drain : service.drain.progress.Apart := by
  intro number event application asked h
  rw [drain] at h
  split at h
  · cases h
  · cases h

theorem apart_resume {task : ServiceTask} {request : Request}
    (h : (ServiceProgress.waiting task request).Apart) (answer : Answer) :
    (service.resume setup task answer).progress.Apart := by
  cases task with
  | engine task => exact apart_ofEngineTurn _
  | applying application => exact apart_ofApplicationTurn _
  | draining => exact apart_drain
  | background number event application => exact absurd rfl (h number event application request)
  | finding tenantId =>
    intro number event application asked h
    cases answer <;> cases h
  | querying tenantId filter =>
    intro number event application asked h
    cases h
  | recording draft =>
    intro number event application asked h
    rcases hstore : service.store.append setup.now draft with ⟨_ | event, store⟩
    · simp only [resume, record, hstore] at h
      cases h
    · simp only [resume, record, hstore] at h
      cases h

theorem suits_start (call : ServiceCall) :
    (service.start setup call).progress.Suits setup.dispatches call := by
  cases call with
  | record draft =>
    rw [start]
    split
    · exact rfl
    · exact suits_record draft
  | background number event =>
    refine suits_ofBackgroundTurn fun application request h => ?_
    cases h
    exact ⟨rfl, rfl⟩
  | job job => exact apart_ofEngineTurn _
  | dispose => exact apart_ofEngineTurn _
  | apply event => exact apart_ofApplicationTurn _
  | drain => exact apart_drain
  | find tenantId =>
    intro number event application asked h
    cases h
  | query tenantId filter? =>
    intro number event application asked h
    rw [start] at h
    split at h
    · cases h
    · cases h

/-- A task that goes on stands where it can. -/
theorem suits_resume {task : ServiceTask} {request : Request}
    (h : (ServiceProgress.waiting task request).Suits setup.dispatches call) (answer : Answer) :
    (service.resume setup task answer).progress.Suits setup.dispatches call := by
  cases call with
  | record draft =>
    obtain rfl : task = .recording draft := h
    exact suits_record draft
  | background number event =>
    obtain ⟨application, rfl, hfits⟩ := h
    rw [← isSome_dispatcher? setup] at hfits
    refine suits_ofBackgroundTurn fun later asked hlater => ?_
    rw [← isSome_dispatcher? setup]
    exact Application.fits_resume hfits hlater
  | job _ | dispose | find _ | apply _ | query _ _ | drain => exact apart_resume h answer

end Service

end Automation
