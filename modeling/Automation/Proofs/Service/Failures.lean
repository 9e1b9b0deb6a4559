import Automation.Proofs.Service.Turns

/-!
# Recorded events and failed applications

A caller who records an event gets it as soon as the store has it; the policies are applied to it
later, by an application in the background. Applications end in any order, some of them with a
failure, and of the failures the latest are kept. This file accounts for all of that, whatever the
order in which tasks have their turns.

## Main definitions

* `ServiceStep.stored?`, `ServiceStep.recorded?` — what the store answers with a step, and the event
  that it records.
* `ServiceStep.found?`, `ServiceStep.denied?` — the tenant that an application finds with a step,
  and why it gets no client when it needs one.
* `ServiceStep.raised?` — the failure that an application ends with in a step.
* `Deployment.Accounted` — what becomes of events and of applications in a run.

## Main statements

* `Deployment.raises?_eq_some_iff` — an application fails with a move because its tenant is unknown
  or because it gets no client.
* `Deployment.applications_step`, `Deployment.failures_step` — what a step schedules and keeps.
* `Deployment.accounted_run` — events and failures are accounted for in every run.
-/

namespace Automation

/-- All tasks of a deployment stand where they can. -/
def Deployment.Sound (site : Deployment) : Prop :=
  ∀ (id : Nat) (call : ServiceCall) (progress : ServiceProgress),
    site.tasks[id]? = some ⟨call, .reached progress⟩ → progress.Suits site.setup.dispatches call

/-! ## Moves -/

namespace Deployment

/-- What the store answers a task with a move that records an event, and the number of the task. -/
def stores? (site : Deployment) : ServiceMove → Option (Nat × Except Failure Event)
  | .launch id =>
    match site.tasks[id]? with
    | some ⟨.record draft, .scheduled⟩ =>
      if site.service.storeWaits then none
      else some (id, (site.service.store.append site.setup.now draft).1)
    | _ => none
  | .resume id _ =>
    match site.tasks[id]? with
    | some ⟨_, .reached (.waiting (.recording draft) _)⟩ =>
      some (id, (site.service.store.append site.setup.now draft).1)
    | _ => none
  | _ => none

/-- The application in the background that goes on with a move, and the answer that it goes on
with; the number of its task and its event. -/
def applies? (site : Deployment) :
    ServiceMove → Option ((Nat × Event) × Application × Answer)
  | .resume id answer =>
    match site.tasks[id]? with
    | some ⟨_, .reached (.waiting (.background _ event application) request)⟩ =>
      some ((id, event), application, site.service.answer request answer)
    | _ => none
  | _ => none

/-- The failure that an application in the background ends with in a move. -/
def raises? (site : Deployment) (move : ServiceMove) : Option ((Nat × Event) × Failure) :=
  (site.applies? move).bind fun (which, application, answer) =>
    (application.resume (Service.dispatcher? site.setup) site.service.engine
      answer).failure?.map (which, ·)

/-- The tenant that an application in the background finds with a move, if it looks for one. -/
def finds? (site : Deployment) (move : ServiceMove) : Option ((Nat × Event) × Option Tenant) :=
  (site.applies? move).bind fun
    | (which, .lookingUp _, _) => some (which, site.service.tenants.lookup which.2.tenantId)
    | (_, .dispatching .., _) => none

/-- Why no client can be obtained for a tenant: it is unknown, or no client can be made for it. -/
def refusal? (site : Deployment) (tenantId : String) : Option Failure :=
  match site.service.tenants.lookup tenantId with
  | none => some (.unknownTenant tenantId)
  | some tenant => site.setup.engine.obstacle tenant

/-- Why the actions of an application in the background cannot be executed with a move, as the
client of the tenant is needed and cannot be obtained. -/
def denies? (site : Deployment) (move : ServiceMove) : Option ((Nat × Event) × Failure) :=
  (site.applies? move).bind fun
    | (which, .dispatching _ _ (.resolving _), _) =>
      (site.refusal? which.2.tenantId).map (which, ·)
    | _ => none

variable {site : Deployment} {move : ServiceMove} {id : Nat} {call : ServiceCall}
  {turn : ServiceTurn}

theorem deed_of_launch (call : ServiceCall) (htask : site.tasks[id]? = some ⟨call, .scheduled⟩) :
    ∃ stored?, site.stores? (.launch id) = stored?.map (id, ·) ∧
      site.service.Deed site.setup.maxFailures? call (site.service.start site.setup call) stored?
        none := by
  by_cases hcall : ∃ draft, call = .record draft
  · obtain ⟨draft, rfl⟩ := hcall
    rw [stores?, htask, Service.start]
    by_cases hwaits : site.service.storeWaits = true
    · refine ⟨none, by simp [hwaits], ?_⟩
      rw [if_pos hwaits]
      exact .passes rfl rfl fun _ _ => ⟨_, _, rfl⟩
    · refine ⟨some (site.service.store.append site.setup.now draft).1, by simp [hwaits], ?_⟩
      rw [if_neg hwaits]
      exact (Service.deed_record draft).withEntries _
  · have hcall : ∀ draft, call ≠ .record draft := fun draft heq => hcall ⟨draft, heq⟩
    refine ⟨none, ?_, Service.deed_start hcall⟩
    rw [stores?, htask]
    cases call with
    | record draft => exact absurd rfl (hcall draft)
    | job _ | dispose | find _ | apply _ | background _ _ | query _ _ | drain => rfl

theorem deed_of_resume (hsound : site.Sound) {task : ServiceTask} {request : Request}
    (htask : site.tasks[id]? = some ⟨call, .reached (.waiting task request)⟩) (answer : Answer) :
    ∃ stored? raised?, site.stores? (.resume id answer) = stored?.map (id, ·) ∧
      site.raises? (.resume id answer) = raised?.map (fun entry => ((id, entry.1), entry.2)) ∧
      site.service.Deed site.setup.maxFailures? call
        (site.service.resume site.setup task (site.service.answer request answer)) stored?
        raised? := by
  have hsuits := hsound id call _ htask
  by_cases hrecord : ∃ draft, task = .recording draft
  · obtain ⟨draft, rfl⟩ := hrecord
    refine ⟨_, none, ?_, ?_, Service.deed_record draft⟩
    · simp only [stores?, htask, Option.map_some]
    · simp only [raises?, applies?, htask, Option.bind_none, Option.map_none]
  · have hrecord : ∀ draft, task ≠ .recording draft := fun draft heq => hrecord ⟨draft, heq⟩
    -- a call that records waits for the store and for nothing else
    have hcall : ∀ draft, call ≠ .record draft := by
      rintro draft rfl
      exact hrecord draft hsuits
    have hstores : site.stores? (.resume id answer) = none := by
      rw [stores?, htask]
      cases task with
      | recording draft => exact absurd rfl (hrecord draft)
      | engine _ | finding _ | applying _ | background _ _ _ | querying _ _ | draining => rfl
    by_cases hbackground : ∃ number event application, task = .background number event application
    · obtain ⟨number, event, application, rfl⟩ := hbackground
      refine ⟨none, _, hstores, ?_, Service.deed_ofBackgroundTurn number event _ hcall⟩
      simp only [raises?, applies?, htask, Option.bind_some, Option.map_map]
      rfl
    · refine ⟨none, none, hstores, ?_, Service.deed_resume hcall hrecord
        fun number event application heq => hbackground ⟨number, event, application, heq⟩⟩
      rw [raises?, applies?, htask]
      cases task with
      | background number event application =>
        exact absurd ⟨number, event, application, rfl⟩ hbackground
      | engine _ | finding _ | applying _ | recording _ | querying _ _ | draining => rfl

/-- What a turn does, in terms of the move that it is. -/
theorem deed_of_turn? (hsound : site.Sound) (h : site.turn? move = some (id, call, turn)) :
    ∃ stored? raised?, site.stores? move = stored?.map (id, ·) ∧
      site.raises? move = raised?.map (fun entry => ((id, entry.1), entry.2)) ∧
      site.service.Deed site.setup.maxFailures? call turn stored? raised? := by
  obtain ⟨rfl, htask, rfl⟩ | ⟨answer, task, request, rfl, htask, rfl⟩ := turn?_eq_some_iff.mp h
  · obtain ⟨stored?, hstores, hdeed⟩ := deed_of_launch call htask
    exact ⟨stored?, none, hstores, rfl, hdeed⟩
  · exact deed_of_resume hsound htask answer

/-- A move that is no turn records nothing and ends no application. -/
theorem idle_of_turn? (h : site.turn? move = none) :
    site.stores? move = none ∧ site.applies? move = none := by
  cases move with
  | launch id =>
    refine ⟨?_, rfl⟩
    rw [turn?] at h
    rw [stores?]
    split at h
    next => cases h
    next hnone =>
      split
      next draft htask => exact absurd htask (hnone _)
      next => rfl
  | resume id answer =>
    rw [turn?] at h
    rw [stores?, applies?]
    split at h
    next => cases h
    next hnone =>
      refine ⟨?_, ?_⟩
      · split
        next draft request htask => exact absurd htask (hnone _ _ _)
        next => rfl
      · split
        next number event application request htask => exact absurd htask (hnone _ _ _)
        next => rfl
  | ask _ | cancel _ | noteEnd _ | configure _ | clearCache | register _ | disrupt _ | obstruct _
  | tick _ => exact ⟨rfl, rfl⟩

/-- In every state, tasks stand where they can. -/
theorem sound_step (h : site.Sound) (move : ServiceMove) : (site.step move).Sound := by
  intro id call progress htask
  rw [(setup_step move).1]
  rcases reached_step htask with htask | ⟨turn, hturn, rfl⟩
  · exact h id call progress htask
  · obtain ⟨rfl, hlaunch, rfl⟩ | ⟨answer, task, request, rfl, hwaits, rfl⟩ :=
      turn?_eq_some_iff.mp hturn
    · exact Service.suits_start call
    · exact Service.suits_resume (h id call _ hwaits) _

/-- An application that goes on is one that a task runs in the background. -/
theorem applies?_eq_some_iff {which : Nat × Event} {application : Application} {answer : Answer} :
    site.applies? move = some (which, application, answer) ↔
      ∃ given call number request, move = .resume which.1 given ∧
        site.tasks[which.1]? =
          some ⟨call, .reached (.waiting (.background number which.2 application) request)⟩ ∧
        answer = site.service.answer request given := by
  constructor
  · intro h
    cases move with
    | resume id given =>
      rw [applies?] at h
      split at h
      next call number event application' request htask =>
        cases h
        exact ⟨given, call, number, request, rfl, htask, rfl⟩
      next => cases h
    | ask _ | launch _ | cancel _ | noteEnd _ | configure _ | clearCache | register _ | disrupt _
    | obstruct _ | tick _ => cases h
  · rintro ⟨given, call, number, request, rfl, htask, rfl⟩
    simp only [applies?, htask]

theorem fits_of_applies? (hsound : site.Sound) {which : Nat × Event} {application : Application}
    {answer : Answer} (h : site.applies? move = some (which, application, answer)) :
    ∃ request given, application.Fits site.setup.dispatches which.2 request ∧
      answer = site.service.answer request given := by
  obtain ⟨given, call, number, request, -, htask, hanswer⟩ := applies?_eq_some_iff.mp h
  refine ⟨request, given, ?_, hanswer⟩
  exact (hsound _ _ _ htask).eq_background.2

/-- An application fails because its tenant is unknown, or because the client of the tenant is
needed and cannot be obtained. -/
theorem raises?_eq_some_iff (hsound : site.Sound) {which : Nat × Event} {failure : Failure} :
    site.raises? move = some (which, failure) ↔
      (site.finds? move = some (which, none) ∧ failure = .unknownTenant which.2.tenantId) ∨
        site.denies? move = some (which, failure) := by
  cases happlies : site.applies? move with
  | none => simp [raises?, finds?, denies?, happlies]
  | some entry =>
    obtain ⟨which', application, answer⟩ := entry
    obtain ⟨request, given, hfits, rfl⟩ := fits_of_applies? hsound happlies
    simp only [raises?, finds?, denies?, happlies, Option.bind_some, Application.failure?_resume]
    cases application with
    | lookingUp about =>
      obtain ⟨rfl, rfl⟩ := hfits
      cases htenant : site.service.tenants.lookup which'.2.tenantId with
      | none =>
        simp only [Service.answer, Service.lookup, htenant]
        constructor
        · intro h
          cases h
          exact .inl ⟨rfl, rfl⟩
        · rintro (⟨h, rfl⟩ | h)
          · cases h
            rfl
          · cases h
      | some tenant => simp [Service.answer, Service.lookup, htenant]
    | dispatching about actions task =>
      obtain ⟨rfl, hdispatches, -, hasks, hjob⟩ := hfits
      have hsetup : Service.dispatcher? site.setup = some site.setup.engine := by
        rw [Service.dispatcher?, if_pos hdispatches]
      simp only [hsetup, Option.bind_some]
      cases task with
      | resolving job =>
        obtain rfl : request = .lookup job.tenantId := hasks
        rw [hjob job rfl]
        cases htenant : site.service.tenants.lookup which'.2.tenantId with
        | none => simp [Service.answer, Service.lookup, refusal?, htenant, Engine.refusal?]
        | some tenant => simp [Service.answer, Service.lookup, refusal?, htenant, Engine.refusal?]
      | closingSurplus _ _ | closing _ _ | sending _ _ _ _ _ | awaiting _ _ _ | changing _ _ _
      | acting _ _ _ _ | handling _ _ _ => simp [Engine.refusal?]

end Deployment

/-! ## Runs -/

theorem Pipeline.latest_nil {α : Type} (limit? : Option Nat) :
    latest limit? ([] : List α) = [] := by
  cases limit? with
  | none => rfl
  | some limit => exact List.drop_nil

/-- What is no longer among the latest does not come back. -/
theorem Pipeline.latest_concat {α : Type} (limit? : Option Nat) (l : List α) (a : α) :
    latest limit? (latest limit? l ++ [a]) = latest limit? (l ++ [a]) := by
  cases limit? with
  | none => rfl
  | some limit =>
    have hle : l.length - limit ≤ l.length := Nat.sub_le _ _
    simp only [latest]
    rw [← List.drop_append_of_le_length hle, List.drop_drop]
    congr 1
    simp only [List.length_append, List.length_drop, List.length_singleton]
    omega

namespace ServiceStep

/-- What the store answers a task with a step that records an event, and the number of the task. -/
def stored? (s : ServiceStep) : Option (Nat × Except Failure Event) := s.before.stores? s.move

/-- The event that is recorded with a step. -/
def recorded? (s : ServiceStep) : Option Event := s.stored?.bind fun entry => entry.2.toOption

/-- The failure that an application in the background ends with in a step. -/
def raised? (s : ServiceStep) : Option ((Nat × Event) × Failure) := s.before.raises? s.move

/-- The tenant that an application in the background finds with a step, if it looks for one. -/
def found? (s : ServiceStep) : Option ((Nat × Event) × Option Tenant) := s.before.finds? s.move

/-- Why an application in the background gets no client with a step in which it needs one. -/
def denied? (s : ServiceStep) : Option ((Nat × Event) × Failure) := s.before.denies? s.move

end ServiceStep

namespace Deployment

variable {site : Deployment} {move : ServiceMove} {id : Nat} {call : ServiceCall}
  {turn : ServiceTurn}

/-- An application that comes to execute actions has found a tenant whose policies ask for them,
with this move or before. -/
theorem dispatching_step (hsound : site.Sound) {number : Nat} {event about : Event}
    {actions : List Action} {task : EngineTask} {request : Request}
    (h : (site.step move).tasks[id]? = some ⟨call, .reached (.waiting
      (.background number event (.dispatching about actions task)) request)⟩) :
    (∃ before request', site.tasks[id]? = some ⟨call, .reached (.waiting
      (.background number event (.dispatching about actions before)) request')⟩) ∨
    ∃ tenant, site.finds? move = some ((id, event), some tenant) ∧
      actions = Policy.matchActions event tenant.policies := by
  have hsuits := sound_step hsound move id call _ h
  rcases reached_step h with htask | ⟨turn, hturn, hprogress⟩
  · exact .inl ⟨task, request, htask⟩
  · obtain ⟨rfl, rfl, -⟩ := hsuits.eq_background
    obtain ⟨rfl, -, rfl⟩ | ⟨given, before, request', rfl, htask, rfl⟩ := turn?_eq_some_iff.mp hturn
    · -- a first turn only looks for the tenant
      obtain ⟨application, heq, hstart⟩ := Service.progress_ofBackgroundTurn hprogress
      cases heq
      cases hstart
    · obtain ⟨application, rfl, hfits⟩ := hsound _ _ _ htask
      obtain ⟨later, heq, hresume⟩ := Service.progress_ofBackgroundTurn hprogress
      cases heq
      obtain ⟨tenant, rfl, hfound, rfl⟩ | ⟨task', rfl⟩ :=
        Application.dispatching_of_resume hresume
      · obtain ⟨-, rfl⟩ := hfits
        have htenant := Service.lookup_eq_found_iff.mp hfound
        refine .inr ⟨tenant, ?_, rfl⟩
        simp only [finds?, applies?, htask, Option.bind_some, htenant]
      · exact .inl ⟨task', request', htask⟩

/-- With a move, an application is scheduled for the event that is recorded, and for no other. -/
theorem applications_step (hsound : site.Sound) (move : ServiceMove) :
    (site.step move).applications = site.applications ++
      (ServiceStep.recorded? ⟨site, move, site.step move⟩).toList := by
  have hrecorded : ServiceStep.recorded? ⟨site, move, site.step move⟩ =
      (site.stores? move).bind fun entry => entry.2.toOption := rfl
  cases hturn : site.turn? move with
  | none =>
    rw [hrecorded, (idle_of_turn? hturn).1, step_of_idle hturn,
      (site.rests_shift move).applications]
    exact (List.append_nil _).symm
  | some entry =>
    obtain ⟨id, call, turn⟩ := entry
    obtain ⟨stored?, raised?, hstores, -, hdeed⟩ := deed_of_turn? hsound hturn
    rw [hrecorded, hstores, applications_advance hturn]
    cases hdeed with
    | passes scheduled failures waits => rw [scheduled]; rfl
    | records number event scheduled failures progress => rw [scheduled]; rfl
    | rejects failure scheduled failures progress => rw [scheduled]; rfl
    | raises event failure apart scheduled failures progress => rw [scheduled]; rfl

/-- With a move, the failure of an application is kept that ends with one, and no other. -/
theorem failures_step (hsound : site.Sound) (move : ServiceMove) :
    (site.step move).service.pipeline.failures =
      match site.raises? move with
      | none => site.service.pipeline.failures
      | some (which, failure) => Pipeline.latest site.setup.maxFailures?
          (site.service.pipeline.failures ++ [Pipeline.failureOf which.2 failure]) := by
  cases hturn : site.turn? move with
  | none =>
    rw [raises?, (idle_of_turn? hturn).2, step_of_idle hturn, (site.rests_shift move).failures]
    rfl
  | some entry =>
    obtain ⟨id, call, turn⟩ := entry
    obtain ⟨stored?, raised?, -, hraises, hdeed⟩ := deed_of_turn? hsound hturn
    rw [hraises, step_of_turn? hturn, advance]
    cases hdeed with
    | passes scheduled failures waits => exact failures
    | records number event scheduled failures progress => exact failures
    | rejects failure scheduled failures progress => exact failures
    | raises event failure apart scheduled failures progress => exact failures

/-- An application that fails is over with that, and nothing has become of it. -/
theorem over_of_raises? (hsound : site.Sound) {which : Nat × Event} {failure : Failure}
    (h : site.raises? move = some (which, failure)) :
    (∃ number, (site.step move).tasks[which.1]? =
      some ⟨.background number which.2, .reached (.finished (.ok .nothing))⟩) ∧
    ∀ call result, site.tasks[which.1]? ≠ some ⟨call, .reached (.finished result)⟩ := by
  obtain ⟨⟨which', application, answer⟩, happlies, hfailure⟩ := Option.bind_eq_some_iff.mp h
  obtain ⟨failure', -, heq⟩ := Option.map_eq_some_iff.mp hfailure
  cases heq
  obtain ⟨given, call, number, request, rfl, htask, -⟩ := applies?_eq_some_iff.mp happlies
  obtain ⟨rfl, -⟩ := (hsound _ _ _ htask).eq_background
  refine ⟨⟨number, ?_⟩, ?_⟩
  · have hturn : site.turn? (.resume which.1 given) =
        some (which.1, .background number which.2, _) :=
      turn?_eq_some_iff.mpr (.inr ⟨given, _, request, rfl, htask, rfl⟩)
    obtain ⟨stored?, raised?, -, hraises, hdeed⟩ := deed_of_turn? hsound hturn
    rw [hraises] at h
    rw [getElem?_advance hturn]
    cases hdeed with
    | passes scheduled failures waits => cases h
    | records number event scheduled failures progress => cases h
    | rejects failure scheduled failures progress => cases h
    | raises event failure apart scheduled failures progress => rw [progress]
  · intro other result hother
    cases htask.symm.trans hother

/-- A task that the store answers ends with the answer in the same step. -/
theorem result?_of_stores? (hsound : site.Sound) {answer : Except Failure Event}
    (h : site.stores? move = some (id, answer)) :
    (site.step move).result? id = some (answer.map .event) ∧
      ∀ event, answer = .ok event → ∃ number,
        (site.step move).tasks.getLast? = some ⟨.background number event, .scheduled⟩ := by
  cases hturn : site.turn? move with
  | none =>
    rw [(idle_of_turn? hturn).1] at h
    cases h
  | some entry =>
    obtain ⟨other, call, turn⟩ := entry
    obtain ⟨stored?, raised?, hstores, -, hdeed⟩ := deed_of_turn? hsound hturn
    rw [hstores] at h
    obtain ⟨answer', rfl, heq⟩ := Option.map_eq_some_iff.mp h
    cases heq
    rw [result?, getElem?_advance hturn]
    cases hdeed with
    | records number event scheduled failures progress =>
      rw [progress]
      refine ⟨rfl, fun event' heq => ⟨number, ?_⟩⟩
      cases heq
      rw [step_of_turn? hturn, advance, scheduled]
      simp [Assignment.ofApplication]
    | rejects failure scheduled failures progress =>
      rw [progress]
      refine ⟨rfl, fun event heq => ?_⟩
      cases heq

/-- A task that records an event ends with what the store answers. -/
theorem ends_of_record (hsound : site.Sound) {draft : EventDraft}
    {result : Except Failure ServiceResult}
    (h : (site.step move).tasks[id]? = some ⟨.record draft, .reached (.finished result)⟩) :
    site.tasks[id]? = some ⟨.record draft, .reached (.finished result)⟩ ∨
      ∃ answer, site.stores? move = some (id, answer) ∧ result = answer.map .event := by
  rcases reached_step h with htask | ⟨turn, hturn, hprogress⟩
  · exact .inl htask
  · obtain ⟨stored?, raised?, hstores, -, hdeed⟩ := deed_of_turn? hsound hturn
    cases hdeed with
    | passes scheduled failures waits =>
      obtain ⟨task, request, hwaits⟩ := waits draft rfl
      rw [hwaits] at hprogress
      cases hprogress
    | records number event scheduled failures progress =>
      rw [progress] at hprogress
      cases hprogress
      exact .inr ⟨_, hstores, rfl⟩
    | rejects failure scheduled failures progress =>
      rw [progress] at hprogress
      cases hprogress
      exact .inr ⟨_, hstores, rfl⟩
    | raises event failure apart scheduled failures progress => exact absurd rfl (apart draft)

/-- The failures that applications in the background have ended with. -/
def failures (steps : List ServiceStep) : List PolicyFailure :=
  (steps.filterMap ServiceStep.raised?).map fun entry => Pipeline.failureOf entry.1.2 entry.2

/-- What a run has recorded and what has failed in it, after its steps. -/
structure Books (steps : List ServiceStep) (site : Deployment) : Prop where
  sound : site.Sound
  scheduled : site.applications = steps.filterMap ServiceStep.recorded?
  failures : site.service.pipeline.failures =
    Pipeline.latest site.setup.maxFailures? (failures steps)
  ended : ∀ s ∈ steps, ∀ which failure, s.raised? = some (which, failure) → ∃ number,
    site.tasks[which.1]? =
      some ⟨.background number which.2, .reached (.finished (.ok .nothing))⟩
  once : ((steps.filterMap ServiceStep.raised?).map fun entry => entry.1.1).Nodup
  sheltered : ∀ (id : Nat) (draft : EventDraft) (result : Except Failure ServiceResult),
    site.tasks[id]? = some ⟨.record draft, .reached (.finished result)⟩ →
      ∃ s ∈ steps, ∃ stored, s.stored? = some (id, stored) ∧ result = stored.map .event
  dispatching : ∀ (id : Nat) (call : ServiceCall) (number : Nat) (event about : Event)
    (actions : List Action) (task : EngineTask) (request : Request),
    site.tasks[id]? = some ⟨call, .reached (.waiting
        (.background number event (.dispatching about actions task)) request)⟩ →
      ∃ s ∈ steps, ∃ tenant, s.found? = some ((id, event), some tenant) ∧
        actions = Policy.matchActions event tenant.policies
  denied : ∀ s ∈ steps, ∀ which failure, s.denied? = some (which, failure) →
    site.setup.dispatches = true ∧ ∃ earlier ∈ steps, ∃ tenant,
      earlier.found? = some (which, some tenant) ∧
        Policy.matchActions which.2 tenant.policies ≠ []
  raised : ∀ s ∈ steps, ∀ which failure, s.raised? = some (which, failure) ↔
    (s.found? = some (which, none) ∧ failure = .unknownTenant which.2.tenantId) ∨
      s.denied? = some (which, failure)
  logged : ∀ s ∈ steps, ∀ id event, s.stored? = some (id, .ok event) →
    s.after.result? id = some (.ok (.event event)) ∧
      s.after.applications = s.before.applications ++ [event] ∧
      ∃ number, s.after.tasks.getLast? = some ⟨.background number event, .scheduled⟩
  rejected : ∀ s ∈ steps, ∀ id failure, s.stored? = some (id, .error failure) →
    s.after.result? id = some (.error failure) ∧ s.after.applications = s.before.applications

variable {steps : List ServiceStep}

theorem books_initial (setup : ServiceSetup) (tenants : List (String × Tenant))
    (backend : StoreBackend) : Books [] (initial setup tenants backend) where
  sound := by
    intro id call progress htask
    cases htask
  scheduled := rfl
  failures := (Pipeline.latest_nil _).symm
  ended := by
    intro s hs
    cases hs
  once := List.nodup_nil
  sheltered := by
    intro id draft result htask
    cases htask
  dispatching := by
    intro id call number event about actions task request htask
    cases htask
  denied := by
    intro s hs
    cases hs
  raised := by
    intro s hs
    cases hs
  logged := by
    intro s hs
    cases hs
  rejected := by
    intro s hs
    cases hs

/-- An application that needs a client has found a tenant whose policies ask for something. -/
theorem Books.of_denies? (h : Books steps site) {which : Nat × Event} {failure : Failure}
    (hdenies : site.denies? move = some (which, failure)) :
    site.setup.dispatches = true ∧ ∃ earlier ∈ steps, ∃ tenant,
      earlier.found? = some (which, some tenant) ∧
        Policy.matchActions which.2 tenant.policies ≠ [] := by
  obtain ⟨⟨which', application, answer⟩, happlies, hrefusal⟩ := Option.bind_eq_some_iff.mp hdenies
  cases application with
  | lookingUp about => cases hrefusal
  | dispatching about actions task =>
    cases task with
    | resolving job =>
      obtain ⟨failure', -, heq⟩ := Option.map_eq_some_iff.mp hrefusal
      cases heq
      obtain ⟨given, call, number, request, rfl, htask, -⟩ := applies?_eq_some_iff.mp happlies
      obtain ⟨-, -, hdispatches, hactions, -⟩ := (h.sound _ _ _ htask).eq_background
      obtain ⟨earlier, hearlier, tenant, hfound, rfl⟩ := h.dispatching _ _ _ _ _ _ _ _ htask
      exact ⟨hdispatches, earlier, hearlier, tenant, hfound, hactions⟩
    | closingSurplus _ _ | closing _ _ | sending _ _ _ _ _ | awaiting _ _ _ | changing _ _ _
    | acting _ _ _ _ | handling _ _ _ => cases hrefusal

theorem Books.step (h : Books steps site) (move : ServiceMove) :
    Books (steps ++ [⟨site, move, site.step move⟩]) (site.step move) where
  sound := sound_step h.sound move
  scheduled := by rw [filterMap_concat, applications_step h.sound, h.scheduled]
  failures := by
    rw [failures_step h.sound, (setup_step move).2, Deployment.failures, filterMap_concat,
      List.map_append, ← Deployment.failures, h.failures]
    have hraised : ServiceStep.raised? ⟨site, move, site.step move⟩ = site.raises? move := rfl
    rw [hraised]
    cases site.raises? move with
    | none => exact congrArg (Pipeline.latest _) (List.append_nil _).symm
    | some entry => exact Pipeline.latest_concat _ _ _
  ended := by
    intro s hs which failure hraised
    rcases List.mem_append.mp hs with hs | hs
    · obtain ⟨number, htask⟩ := h.ended s hs which failure hraised
      exact ⟨number, finished_step htask move⟩
    · rw [List.mem_singleton.mp hs] at hraised
      exact (over_of_raises? h.sound hraised).1
  once := by
    rw [filterMap_concat, List.map_append]
    cases hraised : ServiceStep.raised? ⟨site, move, site.step move⟩ with
    | none => simpa using h.once
    | some entry =>
      obtain ⟨which, failure⟩ := entry
      have hopen := (over_of_raises? h.sound hraised).2
      -- whatever has failed before is over, and this one was not
      have hfresh : which.1 ∉
          (steps.filterMap ServiceStep.raised?).map fun entry => entry.1.1 := by
        intro hmem
        obtain ⟨⟨other, failure'⟩, hother, heq⟩ := List.mem_map.mp hmem
        obtain ⟨s, hs, hraised'⟩ := List.mem_filterMap.mp hother
        obtain ⟨number, htask⟩ := h.ended s hs other failure' hraised'
        rw [show other.1 = which.1 from heq] at htask
        exact hopen _ _ htask
      rw [Option.toList_some, List.map_singleton, ← List.concat_eq_append]
      exact List.Nodup.concat hfresh h.once
  sheltered := by
    intro id draft result htask
    rcases ends_of_record h.sound htask with htask | ⟨answer, hstores, hresult⟩
    · obtain ⟨s, hs, hstored⟩ := h.sheltered id draft result htask
      exact ⟨s, List.mem_append_left _ hs, hstored⟩
    · exact ⟨_, List.mem_append_right _ (List.mem_singleton_self _), answer, hstores, hresult⟩
  dispatching := by
    intro id call number event about actions task request htask
    rcases dispatching_step h.sound htask with
      ⟨before, request', htask⟩ | ⟨tenant, hfinds, hactions⟩
    · obtain ⟨s, hs, hfound⟩ := h.dispatching _ _ _ _ _ _ _ _ htask
      exact ⟨s, List.mem_append_left _ hs, hfound⟩
    · exact ⟨_, List.mem_append_right _ (List.mem_singleton_self _), tenant, hfinds, hactions⟩
  denied := by
    intro s hs which failure hdenied
    rw [(setup_step move).1]
    rcases List.mem_append.mp hs with hs | hs
    · obtain ⟨hdispatches, earlier, hearlier, hfound⟩ := h.denied s hs which failure hdenied
      exact ⟨hdispatches, earlier, List.mem_append_left _ hearlier, hfound⟩
    · rw [List.mem_singleton.mp hs] at hdenied
      obtain ⟨hdispatches, earlier, hearlier, hfound⟩ := h.of_denies? hdenied
      exact ⟨hdispatches, earlier, List.mem_append_left _ hearlier, hfound⟩
  raised := by
    intro s hs which failure
    rcases List.mem_append.mp hs with hs | hs
    · exact h.raised s hs which failure
    · rw [List.mem_singleton.mp hs]
      exact raises?_eq_some_iff h.sound
  logged := by
    intro s hs id event hstored
    rcases List.mem_append.mp hs with hs | hs
    · exact h.logged s hs id event hstored
    · rw [List.mem_singleton.mp hs] at hstored ⊢
      obtain ⟨hresult, happlication⟩ := result?_of_stores? h.sound hstored
      have hrecorded : ServiceStep.recorded? ⟨site, move, site.step move⟩ = some event := by
        rw [ServiceStep.recorded?, hstored]
        rfl
      refine ⟨hresult, ?_, happlication event rfl⟩
      rw [applications_step h.sound, hrecorded]
      rfl
  rejected := by
    intro s hs id failure hstored
    rcases List.mem_append.mp hs with hs | hs
    · exact h.rejected s hs id failure hstored
    · rw [List.mem_singleton.mp hs] at hstored ⊢
      have hrecorded : ServiceStep.recorded? ⟨site, move, site.step move⟩ = none := by
        rw [ServiceStep.recorded?, hstored]
        rfl
      refine ⟨(result?_of_stores? h.sound hstored).1, ?_⟩
      rw [applications_step h.sound, hrecorded]
      exact List.append_nil _

theorem books_run (setup : ServiceSetup) (tenants : List (String × Tenant))
    (backend : StoreBackend) (moves : List ServiceMove) :
    Books ((initial setup tenants backend).steps moves)
      ((initial setup tenants backend).run moves) :=
  run_induction (P := Books) (books_initial setup tenants backend)
    (fun _ _ move h => h.step move) moves

/-- What becomes of events and of applications in a run. Tasks of callers and applications in the
background are known by their numbers. -/
structure Accounted (steps : List ServiceStep) (site : Deployment) : Prop where
  /-- A caller for whom an event is recorded has it in the same step. One application is scheduled
  for it, which has not run yet. -/
  logged : ∀ s ∈ steps, ∀ id event, s.stored? = some (id, .ok event) →
    s.after.result? id = some (.ok (.event event)) ∧
      s.after.applications = s.before.applications ++ [event] ∧
      ∃ number, s.after.tasks.getLast? = some ⟨.background number event, .scheduled⟩
  /-- A caller for whom no event is recorded has the failure of the store. Nothing is scheduled. -/
  rejected : ∀ s ∈ steps, ∀ id failure, s.stored? = some (id, .error failure) →
    s.after.result? id = some (.error failure) ∧ s.after.applications = s.before.applications
  /-- The applications are those for the events that were recorded. -/
  scheduled : site.applications = steps.filterMap ServiceStep.recorded?
  /-- A caller who records an event gets what the store has answered, and nothing else. -/
  sheltered : ∀ (id : Nat) (draft : EventDraft) (result : Except Failure ServiceResult),
    site.tasks[id]? = some ⟨.record draft, .reached (.finished result)⟩ →
      ∃ s ∈ steps, ∃ stored, s.stored? = some (id, stored) ∧ result = stored.map .event
  /-- An application in the background ends with nothing. -/
  silent : ∀ (id number : Nat) (event : Event) (result : Except Failure ServiceResult),
    site.tasks[id]? = some ⟨.background number event, .reached (.finished result)⟩ →
      result = .ok .nothing
  /-- An application fails exactly when the tenant is unknown at the time when it is looked up, or
  the policies ask for some actions, actions are dispatched and the client of the tenant cannot be
  obtained. -/
  failed_iff : ∀ which failure, (∃ s ∈ steps, s.raised? = some (which, failure)) ↔
    ((∃ s ∈ steps, s.found? = some (which, none)) ∧
      failure = .unknownTenant which.2.tenantId) ∨
    ((∃ s ∈ steps, ∃ tenant, s.found? = some (which, some tenant) ∧
        Policy.matchActions which.2 tenant.policies ≠ []) ∧
      site.setup.dispatches = true ∧ ∃ s ∈ steps, s.denied? = some (which, failure))
  /-- An application that has failed is over. -/
  ended : ∀ s ∈ steps, ∀ which failure, s.raised? = some (which, failure) → ∃ number,
    site.tasks[which.1]? =
      some ⟨.background number which.2, .reached (.finished (.ok .nothing))⟩
  /-- No application fails twice. -/
  once : ((steps.filterMap ServiceStep.raised?).map fun entry => entry.1.1).Nodup
  /-- The failures that are kept are the latest, in the order in which the applications failed. -/
  failures : site.service.pipeline.failures =
    Pipeline.latest site.setup.maxFailures? (failures steps)

theorem Books.accounted (h : Books steps site) : Accounted steps site where
  logged := h.logged
  rejected := h.rejected
  scheduled := h.scheduled
  sheltered := h.sheltered
  silent id number event result htask := h.sound id _ _ htask
  failed_iff := by
    intro which failure
    constructor
    · rintro ⟨s, hs, hraised⟩
      rcases (h.raised s hs which failure).mp hraised with ⟨hfound, hfailure⟩ | hdenied
      · exact .inl ⟨⟨s, hs, hfound⟩, hfailure⟩
      · obtain ⟨hdispatches, hearlier⟩ := h.denied s hs which failure hdenied
        exact .inr ⟨hearlier, hdispatches, s, hs, hdenied⟩
    · rintro (⟨⟨s, hs, hfound⟩, hfailure⟩ | ⟨-, -, s, hs, hdenied⟩)
      · exact ⟨s, hs, (h.raised s hs which failure).mpr (.inl ⟨hfound, hfailure⟩)⟩
      · exact ⟨s, hs, (h.raised s hs which failure).mpr (.inr hdenied)⟩
  ended := h.ended
  once := h.once
  failures := h.failures

/-- In every run, however tasks are interleaved, events and failures are accounted for. -/
theorem accounted_run (setup : ServiceSetup) (tenants : List (String × Tenant))
    (backend : StoreBackend) (moves : List ServiceMove) :
    Accounted ((initial setup tenants backend).steps moves)
      ((initial setup tenants backend).run moves) :=
  (books_run setup tenants backend moves).accounted

-- Of two applications for an unknown tenant, the one that was scheduled first fails last: with room
-- for one failure, it is the one that is kept.
example :
    let setup : ServiceSetup := ⟨⟨.standard, fun _ => none⟩, true, some 1, ⟨0, 0⟩⟩
    let visit : ServiceCall := .record ⟨"acme", .number 7, "visit", [], none⟩
    let site := (initial setup [] .memory).run [.ask visit, .launch 0, .ask visit, .launch 2,
      .launch 1, .launch 3, .resume 3 .done, .resume 1 .done]
    site.applications.map Event.id = [.number 1, .number 2] ∧
      site.service.pipeline.failures.map PolicyFailure.eventId = [.number 1] := by
  decide

end Deployment

end Automation
