import Automation.Proofs.Sync.Window

/-!
# Everyone in a window has the same outcome

While a message is in flight, its sender and all tasks that wait for it share one flight. However
they are interleaved, the flight lands as the retried call of the sender ends, and everyone who is
not cancelled leaves with the result that follows from the landing.

## Main definitions

* `Workload.Parting` — how a task leaves a flight.
* `Retrying.landing?` — how a flight lands, by what happens to its sender alone.
* `Workload.Alike` — two workloads that differ in one task only.
* `Workload.Window` — what is true of a flight in a run.

## Main statements

* `Workload.landing?_run_eq` — nobody but the sender has a say in how a flight lands.
* `Workload.Alike.run` — whether a task that waits is cancelled makes no difference to the others.
* `Workload.window_run` — the outcome agrees among all tasks of a flight, in every run.
-/

namespace Automation

/-- What happens to a task with a move: its wait ends with an answer, or it is cancelled. -/
def Move.event? (id : Nat) : Move → Option (Option Answer)
  | .resume other answer => if other = id then some (some answer) else none
  | .cancel other => if other = id then some none else none
  | .start _ | .dispose | .clearCache | .register _ => none

/-- How a flight lands when its sender, who stands at a point of a retried call, goes on with
answers or is cancelled. -/
def Retrying.landing? (options : RetryOptions) (retrying : Retrying) :
    List (Option Answer) → Option Landing
  | [] => none
  | none :: _ => some (.failed Engine.cancelledMessage)
  | some answer :: rest =>
    match (retrying.step options answer).1 with
    | .attempt backoff => (Retrying.trying backoff).landing? options rest
    | .pause _ backoff => (Retrying.pausing backoff).landing? options rest
    | .ended failure? => some (.ofFailure? failure?)

/-- One result comes before another of the same sync: neither messages nor failures are lost. -/
structure SyncResult.Grows (result later : SyncResult) : Prop where
  messagesSent : result.messagesSent ≤ later.messagesSent
  errors : result.errors <+: later.errors

namespace SyncResult.Grows

theorem refl (result : SyncResult) : result.Grows result := ⟨Int.le_refl _, List.prefix_rfl⟩

theorem trans {r s t : SyncResult} (h : r.Grows s) (h' : s.Grows t) : r.Grows t :=
  ⟨Int.le_trans h.messagesSent h'.messagesSent, h.errors.trans h'.errors⟩

theorem of_leadsTo {result later : SyncResult} (h : result.LeadsTo later) : result.Grows later :=
  ⟨Int.le_of_eq h.messagesSent.symm, h.errors⟩

theorem settle (landing : Landing) (part : Part) (key : String) (result : SyncResult) :
    result.Grows (landing.settle part key result) := by
  cases landing with
  | delivered =>
    cases part with
    | sender => exact ⟨Int.le_add_one (Int.le_refl _), List.prefix_rfl⟩
    | waiter => exact refl result
  | failed message => exact of_leadsTo (.addError _ _)

end SyncResult.Grows

namespace Workload

variable {setup : EngineSetup} {load other : Workload} {id : Nat} {a : Attendance}

/-! ## Leaving a flight -/

/-- How a task leaves its flight: it is cancelled; or it goes on when the flight has landed, with
its result settled by the landing. The flight of a sender lands in that moment. -/
inductive Parting (setup : EngineSetup) (load : Workload) (move : Move) (next : Workload)
    (id : Nat) (a : Attendance) : Prop
  | cancelled (moved : move = .cancel id)
      (landed : a.part = .sender →
        next.engine.landing? a.flight = some (.failed Engine.cancelledMessage))
  | settled (answer : Answer) (landing : Landing) (moved : move = .resume id answer)
      (landed : next.engine.landing? a.flight = some landing)
      (result : next.result? id = some (landing.settle a.part a.key a.sync.result))
      (decided : a.part = .sender → ∃ value retrying failure?,
        load.task? id = some (.sending a.sync a.key value a.flight retrying) ∧
          (retrying.step setup.retry answer).1 = .ended failure? ∧ landing = .ofFailure? failure?)

theorem task?_of_attends? (ha : load.attends? id = some a) :
    ∃ task, load.task? id = some task ∧ task.attends? = some a := by
  rw [attends?_eq_bind] at ha
  exact Option.bind_eq_some_iff.mp ha

theorem result?_advance {turn : Turn} (hlt : id < load.tasks.length) :
    (load.advance id turn).result? id = turn.progress.result? := by
  simp [result?, advance, hlt, Standing.result?]

theorem parting_of_resume (hcrewed : load.Crewed) {backoff : Backoff}
    (hfirst : Backoff.first setup.retry = .ok backoff) (ha : load.attends? id = some a)
    {answer : Answer} (hleaves : (load.step setup (.resume id answer)).attends? id ≠ some a) :
    Parting setup load (.resume id answer) (load.step setup (.resume id answer)) id a := by
  obtain ⟨task, htask, hattends⟩ := task?_of_attends? ha
  have hlt := lt_of_task? htask
  have hstep : load.step setup (.resume id answer) =
      load.advance id (load.engine.resume setup task answer) := by
    simp only [step, htask]
  cases hv : load.engine.verdict? setup.retry task answer with
  | none =>
    -- without a verdict the task would have stayed
    obtain ⟨-, hstays⟩ := Engine.resume_of_no_verdict hattends hv
    refine absurd ?_ hleaves
    rw [hstep, advance, attends?_set _ _ hlt, Function.update_self]
    exact hstays
  | some landing =>
    have hopens := Engine.opens_resume_of_verdict hattends hv
    have hlanded : (load.engine.conclude a landing).landing? a.flight = some landing := by
      cases hpart : a.part with
      | sender => exact hcrewed.landing?_conclude_self ha hpart
      | waiter =>
        rw [Engine.conclude_of_waiter hpart, ← Engine.verdict?_of_waiter hattends hpart, hv]
    refine .settled answer landing rfl ?_ ?_ ?_
    · rw [hstep]
      exact hopens.landing? hlanded
    · rw [hstep, result?_advance hlt]
      exact Engine.result_resume_of_verdict hfirst hattends hv
    · intro hsender
      obtain ⟨-, value, retrying, rfl⟩ | ⟨hwaiter, -⟩ := EngineTask.eq_of_attends? hattends
      · refine ⟨value, retrying, ?_⟩
        rcases hcall : (retrying.step setup.retry answer).1 with _ | _ | failure?
        · simp [Engine.verdict?, hcall] at hv
        · simp [Engine.verdict?, hcall] at hv
        · refine ⟨failure?, htask, rfl, ?_⟩
          simpa [Engine.verdict?, hcall, eq_comm] using hv
      · rw [hsender] at hwaiter
        cases hwaiter

theorem parting_of_cancel (hcrewed : load.Crewed) (ha : load.attends? id = some a) :
    Parting setup load (.cancel id) (load.step setup (.cancel id)) id a := by
  obtain ⟨task, htask, hattends⟩ := task?_of_attends? ha
  refine .cancelled rfl fun hsender => ?_
  simp only [step, htask, Engine.cancel_eq, hattends]
  exact hcrewed.landing?_conclude_self ha hsender

/-- A task leaves the flight that it attends in one of these ways. -/
theorem parting_of_leaves (hcrewed : load.Crewed) {backoff : Backoff}
    (hfirst : Backoff.first setup.retry = .ok backoff) {move : Move}
    (h : (Step.mk load move (load.step setup move)).Leaves id a) :
    Parting setup load move (load.step setup move) id a := by
  obtain ⟨ha, hleaves⟩ := h
  obtain ⟨task, htask, -⟩ := task?_of_attends? ha
  have hmove : move.task? = some id := by
    by_contra hne
    refine hleaves ?_
    rw [attends?, getElem?_step_of_ne hne (lt_of_task? htask)]
    exact ha
  cases move with
  | resume other answer =>
    obtain rfl : other = id := Option.some.inj hmove
    exact parting_of_resume hcrewed hfirst ha hleaves
  | cancel other =>
    obtain rfl : other = id := Option.some.inj hmove
    exact parting_of_cancel hcrewed ha
  | start _ | dispose | clearCache | register _ => cases hmove

/-- A task that waits for a flight leaves it as soon as it goes on after the landing. -/
theorem leaves_of_landed (hcrewed : load.Crewed) (ha : load.attends? id = some a)
    (hwaiter : a.part = .waiter) {landing : Landing}
    (hlanded : load.engine.landing? a.flight = some landing) (answer : Answer) :
    (load.step setup (.resume id answer)).attends? id ≠ some a := by
  obtain ⟨task, htask, hattends⟩ := task?_of_attends? ha
  have hv : load.engine.verdict? setup.retry task answer = some landing := by
    rw [Engine.verdict?_of_waiter hattends hwaiter, hlanded]
  have hopens := Engine.opens_resume_of_verdict hattends hv
  intro hstays
  simp only [step, htask, advance, attends?_set _ _ (lt_of_task? htask),
    Function.update_self, Standing.attends?] at hstays
  rw [Engine.Opens, hstays, Engine.conclude_of_waiter hwaiter] at hopens
  -- it could only stay by coming back, to a flight that is not listed any more
  cases hopens with
  | joins _ part kept listed =>
    exact hcrewed.not_listed_of_landed hlanded _ (hcrewed.lookup_eq_some_iff.mp listed)
  | sends _ before backoff part =>
    rw [hwaiter] at part
    cases part

/-- Whoever comes to a flight comes while it is listed. -/
theorem listed_of_comes (hcrewed : load.Crewed) {move : Move}
    (hafter : (load.step setup move).attends? id = some a) (hbefore : load.attends? id ≠ some a) :
    (a.messageKey, a.flight) ∈ (load.step setup move).engine.inFlight := by
  have hnext : (load.step setup move).Crewed := crewed_step hcrewed move
  cases hpart : a.part with
  | sender => exact hnext.sender_listed id a hafter hpart
  | waiter =>
    have hopens : ∀ {engine : Engine} {old : Nat → Option Attendance}, engine.Crewed old →
        engine.Enters setup.retry (load.step setup move).engine (some a) →
        (a.messageKey, a.flight) ∈ (load.step setup move).engine.inFlight := by
      intro engine old hold hopens
      cases hopens with
      | joins _ part kept listed =>
        rw [kept.inFlight]
        exact hold.lookup_eq_some_iff.mp listed
      | sends _ before backoff part =>
        rw [hpart] at part
        cases part
    have hseat : ∀ {i seat}, (load.step setup move).attends? =
        Function.update load.attends? i seat → seat = some a := by
      intro i seat hseats
      rw [hseats] at hafter
      exact ((update_eq_some_iff.mp hafter).resolve_right fun h => hbefore h.2).2
    cases shift_step setup load move with
    | rests processed inFlight flights seats => exact absurd (seats ▸ hafter) hbefore
    | clears cleared processed inFlight flights seats => exact absurd (seats ▸ hafter) hbefore
    | enters i seat idle live opens seats => exact hopens hcrewed (hseat seats ▸ opens)
    | leaves i b landing seat attending moved waited opens seats =>
      exact hopens (hcrewed.vacate attending landing) (hseat seats ▸ opens)

/-- Nobody attends a flight unless the first delay of the retry options can be computed with. -/
def Grounded (setup : EngineSetup) (load : Workload) : Prop :=
  ∀ id a, load.attends? id = some a → ∃ backoff, Backoff.first setup.retry = .ok backoff

theorem grounded_step (hcrewed : load.Crewed) (h : load.Grounded setup) (move : Move) :
    (load.step setup move).Grounded setup := by
  intro id a ha
  cases shift_step setup load move with
  | rests processed inFlight flights seats => exact h id a (seats ▸ ha)
  | clears cleared processed inFlight flights seats => exact h id a (seats ▸ ha)
  | leaves i b landing seat attending => exact h i b attending
  | enters i seat idle live opens seats =>
    rw [seats] at ha
    rcases update_eq_some_iff.mp ha with ⟨-, rfl⟩ | ⟨-, ha⟩
    · cases opens with
      | joins _ part kept listed =>
        obtain ⟨j, b, hb, -⟩ :=
          hcrewed.exists_sender _ _ (hcrewed.lookup_eq_some_iff.mp listed)
        exact h j b hb
      | sends _ before backoff part kept unlisted fresh first => exact ⟨backoff, first⟩
    · exact h id a ha

theorem crewed_grounded_of_mem {moves : List Move} {s : Step}
    (hs : s ∈ initial.steps setup moves) :
    (s.before.Crewed ∧ s.before.Grounded setup) ∧ (s.after.Crewed ∧ s.after.Grounded setup) := by
  refine invariant_of_mem (P := fun load => load.Crewed ∧ load.Grounded setup)
    ⟨crewed_initial, by simp [Grounded, initial, attends?]⟩ ?_ hs
  exact fun load move h => ⟨crewed_step h.1 move, grounded_step h.1 h.2 move⟩

/-- What steps preserve and holds after a step of a run, holds at its end. -/
theorem persists_of_mem {Q : Workload → Prop}
    (hstep : ∀ load move, load.Crewed → Q load → Q (load.step setup move)) {moves : List Move}
    {s : Step} (hs : s ∈ initial.steps setup moves) (h : Q s.after) :
    Q (initial.run setup moves) := by
  refine (run_induction (P := fun steps load => load.Crewed ∧ ∀ s ∈ steps, Q s.after → Q load)
    ⟨crewed_initial, by simp⟩ ?_ moves).2 s hs h
  rintro steps load move ⟨hcrewed, hsteps⟩
  refine ⟨crewed_step hcrewed move, fun s hs h => ?_⟩
  rcases List.mem_append.mp hs with hs | hs
  · exact hstep load move hcrewed (hsteps s hs h)
  · rwa [List.mem_singleton.mp hs] at h

/-! ## Results -/

/-- A sync that was not cancelled goes on with a result that is no less than the one before. -/
theorem result?_step {result : SyncResult} (h : load.result? id = some result) (move : Move) :
    (load.step setup move).tasks[id]? = some .cancelled ∨
      ∃ later, (load.step setup move).result? id = some later ∧ result.Grows later := by
  obtain ⟨standing, hstanding, hresult⟩ := Option.bind_eq_some_iff.mp h
  have hlt := (List.getElem?_eq_some_iff.mp hstanding).1
  by_cases hmove : move.task? = some id
  · cases move with
    | start _ | dispose | clearCache | register _ => cases hmove
    | cancel number =>
      obtain rfl : number = id := Option.some.inj hmove
      cases htask : load.task? number with
      | none => exact .inr ⟨result, by simpa [step, htask] using h, .refl _⟩
      | some task => exact .inl (by simp [step, htask, hlt])
    | resume number answer =>
      obtain rfl : number = id := Option.some.inj hmove
      cases htask : load.task? number with
      | none => exact .inr ⟨result, by simpa [step, htask] using h, .refl _⟩
      | some task =>
        have hown : task.result? = some result := by
          rcases standing with (⟨task', request⟩ | end?) | _ <;>
            simp_all [task?, Standing.task?, Standing.result?, Progress.result?]
        simp only [step, htask, result?_advance hlt]
        right
        cases ha : task.attends? with
        | none =>
          obtain ⟨later, hlater, hleads⟩ := Engine.result_resume hown ha answer
          exact ⟨later, hlater, .of_leadsTo hleads⟩
        | some a =>
          obtain rfl : result = a.sync.result :=
            Option.some.inj (hown.symm.trans (EngineTask.result?_of_attends? ha))
          cases hv : load.engine.verdict? setup.retry task answer with
          | none =>
            obtain ⟨-, hstays⟩ := Engine.resume_of_no_verdict ha hv
            exact ⟨_, Progress.result?_of_attends? hstays, .refl _⟩
          | some landing =>
            obtain ⟨entries, hturn⟩ := Engine.resume_of_verdict ha hv
            obtain ⟨later, hlater, hleads⟩ := @Engine.result_proceedMessages setup.retry
              (load.engine.conclude a landing) (a.settled landing) a.sync.messages
            rw [hturn]
            exact ⟨later, hlater, (SyncResult.Grows.settle ..).trans (.of_leadsTo hleads)⟩
  · refine .inr ⟨result, ?_, .refl _⟩
    rw [result?, getElem?_step_of_ne hmove hlt]
    exact h

/-! ## The sender decides -/

section

variable {sync : Syncing} {key : String} {value : Json} {flight : Nat} {retrying : Retrying}

/-- A sender goes on as its retried call does. -/
theorem sending_resume (setup : EngineSetup) (hcrewed : load.Crewed)
    (htask : load.task? id = some (.sending sync key value flight retrying)) (answer : Answer) :
    match (retrying.step setup.retry answer).1 with
    | .attempt backoff => (load.step setup (.resume id answer)).task? id =
        some (.sending sync key value flight (.trying backoff))
    | .pause _ backoff => (load.step setup (.resume id answer)).task? id =
        some (.sending sync key value flight (.pausing backoff))
    | .ended failure? => (load.step setup (.resume id answer)).engine.landing? flight =
        some (.ofFailure? failure?) := by
  have hlt := lt_of_task? htask
  have hstep : load.step setup (.resume id answer) = load.advance id
      (load.engine.resume setup (.sending sync key value flight retrying) answer) := by
    simp only [step, htask]
  rcases hcall : retrying.step setup.retry answer with ⟨call, entries⟩
  cases call with
  | attempt backoff =>
    simp [hstep, task?, advance, hlt, Engine.resume, hcall, Engine.continueCall, Engine.wait,
      Turn.after, Standing.task?]
  | pause seconds backoff =>
    simp [hstep, task?, advance, hlt, Engine.resume, hcall, Engine.continueCall, Engine.wait,
      Turn.after, Standing.task?]
  | ended failure? =>
    have hv : load.engine.verdict? setup.retry (.sending sync key value flight retrying) answer =
        some (.ofFailure? failure?) := by
      simp [Engine.verdict?, hcall]
    have ha : load.attends? id = some ⟨.sender, sync, key, flight⟩ := by
      simp [attends?_eq_bind, htask, EngineTask.attends?]
    rw [hstep]
    exact (Engine.opens_resume_of_verdict rfl hv).landing?
      (hcrewed.landing?_conclude_self ha rfl)

/-- How a flight lands depends on nothing but what happens to its sender. -/
theorem landing?_run_eq (hcrewed : load.Crewed)
    (htask : load.task? id = some (.sending sync key value flight retrying)) (moves : List Move) :
    (load.run setup moves).engine.landing? flight =
      retrying.landing? setup.retry (moves.filterMap (Move.event? id)) := by
  have ha : ∀ {load : Workload} {retrying : Retrying},
      load.task? id = some (.sending sync key value flight retrying) →
      load.attends? id = some ⟨.sender, sync, key, flight⟩ := by
    intro load retrying htask
    simp [attends?_eq_bind, htask, EngineTask.attends?]
  induction moves generalizing load retrying with
  | nil =>
    have hpending := (hcrewed.pending_iff flight).mpr ⟨_, hcrewed.sender_listed id _ (ha htask) rfl⟩
    simp [run, Engine.landing?, hpending, Retrying.landing?]
  | cons move rest ih =>
    have hnext : (load.step setup move).Crewed := crewed_step hcrewed move
    by_cases hmove : move.task? = some id
    · cases move with
      | start _ | dispose | clearCache | register _ => cases hmove
      | resume number answer =>
        obtain rfl : number = id := Option.some.inj hmove
        have hgoes := sending_resume setup hcrewed htask answer
        rw [List.filterMap_cons_some (b := some answer) (by simp [Move.event?]), Retrying.landing?]
        split at hgoes
        next backoff hcall =>
          exact ih hnext hgoes
        next seconds backoff hcall =>
          exact ih hnext hgoes
        next failure? hcall =>
          exact landing?_run hnext hgoes rest
      | cancel number =>
        obtain rfl : number = id := Option.some.inj hmove
        rw [List.filterMap_cons_some (b := none) (by simp [Move.event?]), Retrying.landing?]
        refine landing?_run hnext ?_ rest
        simp only [step, htask]
        exact hcrewed.landing?_conclude_self (ha htask) rfl
    · -- a move of another task leaves the sender where it stands
      have hnone : Move.event? id move = none := by
        cases move with
        | start _ | dispose | clearCache | register _ => rfl
        | resume number answer | cancel number =>
          exact if_neg fun heq => hmove (congrArg some heq)
      rw [List.filterMap_cons_none hnone]
      refine ih hnext ?_
      rw [task?, getElem?_step_of_ne hmove (lt_of_task? htask)]
      exact htask

end

/-! ## Cancelling a task that waits -/

/-- Two workloads that differ in one task only. -/
structure Alike (id : Nat) (load other : Workload) : Prop where
  engine : other.engine = load.engine
  length : other.tasks.length = load.tasks.length
  tasks : ∀ i, i ≠ id → other.tasks[i]? = load.tasks[i]?

namespace Alike

theorem enlist (h : Alike id load other) (turn : Turn) :
    Alike id (load.enlist turn) (other.enlist turn) := by
  refine ⟨rfl, by simp [Workload.enlist, h.length], fun i hne => ?_⟩
  simp only [Workload.enlist, List.getElem?_append, h.length, h.tasks i hne]

theorem set (h : Alike id load other) (engine : Engine) (i : Nat) (standing : Standing) :
    Alike id ⟨engine, load.tasks.set i standing⟩ ⟨engine, other.tasks.set i standing⟩ := by
  refine ⟨rfl, by simp [h.length], fun j hne => ?_⟩
  simp only [List.getElem?_set, h.length, h.tasks j hne]

theorem step (h : Alike id load other) {move : Move} (hmove : move.task? ≠ some id) :
    Alike id (load.step setup move) (other.step setup move) := by
  cases move with
  | start job =>
    simp only [Workload.step, h.engine]
    exact h.enlist _
  | dispose =>
    simp only [Workload.step, h.engine]
    exact h.enlist _
  | clearCache => exact ⟨by simp only [Workload.step, h.engine], h.length, h.tasks⟩
  | register kind => exact ⟨by simp only [Workload.step, h.engine], h.length, h.tasks⟩
  | resume i answer =>
    have hne : i ≠ id := fun heq => hmove (congrArg some heq)
    have htask : other.task? i = load.task? i := by rw [task?, h.tasks i hne, task?]
    simp only [Workload.step, htask, h.engine]
    cases load.task? i with
    | some task => exact h.set _ i _
    | none => exact h
  | cancel i =>
    have hne : i ≠ id := fun heq => hmove (congrArg some heq)
    have htask : other.task? i = load.task? i := by rw [task?, h.tasks i hne, task?]
    simp only [Workload.step, htask, h.engine]
    cases load.task? i with
    | some task => exact h.set _ i _
    | none => exact h

theorem run (h : Alike id load other) {moves : List Move}
    (hmoves : ∀ move ∈ moves, move.task? ≠ some id) :
    Alike id (load.run setup moves) (other.run setup moves) := by
  induction moves generalizing load other with
  | nil => exact h
  | cons move rest ih =>
    exact ih (h.step (hmoves move List.mem_cons_self))
      fun move hmove => hmoves move (List.mem_cons_of_mem _ hmove)

theorem cancel (ha : load.attends? id = some a) (hwaiter : a.part = .waiter) :
    Alike id load (load.step setup (.cancel id)) := by
  obtain ⟨task, htask, hattends⟩ := task?_of_attends? ha
  simp only [Workload.step, htask, Engine.cancel_eq, hattends]
  refine ⟨Engine.conclude_of_waiter hwaiter, by simp, fun i hne => ?_⟩
  exact List.getElem?_set_ne hne.symm

end Alike

/-! ## Windows -/

/-- A task takes part in a flight at some time of a run: it has put the message in flight, or has
come to it while it was. -/
def TakesPart (steps : List Step) (flight id : Nat) (a : Attendance) : Prop :=
  Took steps id a ∧ a.flight = flight

/-- What is true of a flight in a run: of the task that sends and of all that come to the message
while it is in flight. -/
structure Window (setup : EngineSetup) (steps : List Step) (last : Workload) (flight : Nat) :
    Prop where
  one_key : ∀ i j a b, TakesPart steps flight i a → TakesPart steps flight j b →
    a.messageKey = b.messageKey
  one_part : ∀ i a b, TakesPart steps flight i a → TakesPart steps flight i b → a = b
  one_sender : (∃ i a, TakesPart steps flight i a) →
    ∃! i, ∃ a, TakesPart steps flight i a ∧ a.part = .sender
  /-- Whoever takes part has come while the message was in flight. -/
  listed : ∀ s ∈ steps, ∀ i a, s.after.attends? i = some a → s.before.attends? i ≠ some a →
    a.flight = flight → (a.messageKey, flight) ∈ s.after.engine.inFlight
  /-- Whoever comes while the message is in flight takes part. -/
  joins : ∀ (engine : Engine) sync key value rest,
    engine.inFlight.lookup (sync.messageKey key) = some flight →
    (engine.proceedMessages setup.retry sync ((key, value) :: rest)).progress.attends? =
      some ⟨.waiter, { sync with messages := rest }, key, flight⟩
  /-- A waiter makes no call: all that it waits for is the landing. -/
  waits : ∀ s ∈ steps, ∀ i a, s.after.attends? i = some a → a.flight = flight →
    a.part = .waiter → ∃ task, s.after.tasks[i]? = some (.reached (.waiting task (.landing flight)))
  /-- Once the flight has landed, a waiter that goes on leaves. -/
  leaves : ∀ s ∈ steps, ∀ i a answer, s.before.attends? i = some a → a.flight = flight →
    a.part = .waiter → s.move = .resume i answer →
    (s.before.engine.landing? flight).isSome → s.Leaves i a
  /-- Each of them is still in the window or has left it once: it was cancelled, or has gone on
  when the flight had landed. -/
  course : ∀ i a, TakesPart steps flight i a →
    (last.attends? i = some a ∧ exits steps i a = []) ∨
    ∃ s, exits steps i a = [s] ∧ (s.move = .cancel i ∨
      (∃ answer, s.move = .resume i answer) ∧ (last.engine.landing? flight).isSome)
  /-- The flight lands in the moment at which its sender leaves: as cancelled when the sender is,
  and otherwise as the retried call has ended. -/
  sender_decides : ∀ i a, TakesPart steps flight i a → a.part = .sender →
    (last.engine.landing? flight = none ∧ exits steps i a = []) ∨
    ∃ s, exits steps i a = [s] ∧ (
      (s.move = .cancel i ∧ last.engine.landing? flight = some (.failed "send was cancelled")) ∨
      ∃ answer value retrying failure?, s.move = .resume i answer ∧
        s.before.task? i = some (.sending a.sync a.key value flight retrying) ∧
        (retrying.step setup.retry answer).1 = .ended failure? ∧
        last.engine.landing? flight = some (.ofFailure? failure?))
  /-- When the send succeeds, its sender counts the message, and nobody else does anything to the
  result of its sync. -/
  delivered : last.engine.landing? flight = some .delivered → ∀ i a, TakesPart steps flight i a →
    (a.part = .sender → ∃ s, exits steps i a = [s] ∧ s.after.result? i =
      some { a.sync.result with messagesSent := a.sync.result.messagesSent + 1 }) ∧
    (a.part = .waiter → ∀ s, exits steps i a = [s] →
      s.move = .cancel i ∨ s.after.result? i = some a.sync.result)
  /-- When the send fails, everyone who leaves without being cancelled has one more failure in its
  result, about its own key, and no message. -/
  failed : ∀ text, last.engine.landing? flight = some (.failed text) → ∀ i a,
    TakesPart steps flight i a → ∀ s, exits steps i a = [s] → s.move = .cancel i ∨
      s.after.result? i = some (a.sync.result.addError
        ("Failed to send message '" ++ a.key ++ "': " ++ text))
  /-- What a result has got it keeps, up to the end of the sync. -/
  kept : ∀ s ∈ steps, ∀ i result, s.after.result? i = some result →
    last.tasks[i]? = some .cancelled ∨ ∃ later, last.result? i = some later ∧ result.Grows later
  /-- From any moment on, how the flight lands depends on what happens to its sender, and on
  nothing that happens to others. -/
  alone : ∀ i sync key value retrying,
    last.task? i = some (.sending sync key value flight retrying) → ∀ moves,
    (last.run setup moves).engine.landing? flight =
      retrying.landing? setup.retry (moves.filterMap (Move.event? i))
  /-- After a waiter was cancelled, everything goes on for all others as if it still waited. -/
  cancelling : ∀ i a, last.attends? i = some a → a.flight = flight → a.part = .waiter →
    ∀ moves, (∀ move ∈ moves, move.task? ≠ some i) →
    Alike i (last.run setup moves) ((last.step setup (.cancel i)).run setup moves)
  /-- When not even the first delay can be computed with, there is nobody to wait: every send
  fails within the turn of its sync, which goes on with one more failure. -/
  grounded : ∀ fault, Backoff.first setup.retry = .error fault →
    (∀ i a, ¬ TakesPart steps flight i a) ∧
    ∀ (engine : Engine) (sync : Syncing) key value rest,
      engine.inFlight.lookup (sync.messageKey key) = none →
      sync.messageKey key ∉ engine.processed →
      ∃ other entries, engine.Keeps other ∧
        engine.proceedMessages setup.retry sync ((key, value) :: rest) =
          (other.proceedMessages setup.retry
            (sync.fail (Syncing.unsentLine key (Failure.delay fault).message)) rest).after entries

section

variable {steps : List Step} {moves : List Move} {flight : Nat} {s : Step}

theorem mem_of_exits (h : exits steps id a = [s]) : s ∈ steps ∧ s.Leaves id a := by
  have hmem : s ∈ exits steps id a := by simp [h]
  exact ⟨(List.mem_filter.mp hmem).1, of_decide_eq_true (List.mem_filter.mp hmem).2⟩

theorem parting_of_exits (h : exits (initial.steps setup moves) id a = [s]) :
    Parting setup s.before s.move s.after id a := by
  obtain ⟨hs, hleaves⟩ := mem_of_exits h
  obtain ⟨⟨hcrewed, hgrounded⟩, -⟩ := crewed_grounded_of_mem hs
  obtain ⟨backoff, hfirst⟩ := hgrounded id a hleaves.1
  have hafter := after_eq_of_mem hs
  obtain ⟨before, move, after⟩ := s
  obtain rfl : after = before.step setup move := hafter
  exact parting_of_leaves hcrewed hfirst hleaves

theorem landing?_of_mem (hs : s ∈ initial.steps setup moves) {landing : Landing}
    (h : s.after.engine.landing? flight = some landing) :
    (initial.run setup moves).engine.landing? flight = some landing :=
  persists_of_mem (Q := fun load => load.engine.landing? flight = some landing)
    (fun _ move hcrewed hlanding => landing?_step hcrewed hlanding move) hs h

theorem result?_of_mem (hs : s ∈ initial.steps setup moves) {result : SyncResult}
    (h : s.after.result? id = some result) :
    (initial.run setup moves).tasks[id]? = some .cancelled ∨
      ∃ later, (initial.run setup moves).result? id = some later ∧ result.Grows later := by
  refine persists_of_mem (Q := fun load => load.tasks[id]? = some .cancelled ∨
    ∃ later, load.result? id = some later ∧ result.Grows later) ?_ hs (.inr ⟨result, h, .refl _⟩)
  rintro load move - (hcancelled | ⟨later, hlater, hgrows⟩)
  · exact .inl (cancelled_step hcancelled move)
  · refine (result?_step hlater move).imp_right ?_
    rintro ⟨last, hlast, hgrows'⟩
    exact ⟨last, hlast, hgrows.trans hgrows'⟩

/-- A sender that has not left has a flight that has not landed. -/
theorem Crewed.landing?_of_sender (hcrewed : load.Crewed) (ha : load.attends? id = some a)
    (hsender : a.part = .sender) : load.engine.landing? a.flight = none := by
  have hpending := (hcrewed.pending_iff _).mpr ⟨_, hcrewed.sender_listed id a ha hsender⟩
  simp [Engine.landing?, hpending]

/-- Once the flight has landed, whoever leaves it without being cancelled has its result settled. -/
theorem result?_of_exits (h : exits (initial.steps setup moves) id a = [s]) {landing : Landing}
    (hlanding : (initial.run setup moves).engine.landing? a.flight = some landing) :
    s.move = .cancel id ∨
      s.after.result? id = some (landing.settle a.part a.key a.sync.result) := by
  cases parting_of_exits h with
  | cancelled moved landed => exact .inl moved
  | settled answer landing' moved landed result decided =>
    have hlast := landing?_of_mem (mem_of_exits h).1 landed
    obtain rfl := Option.some.inj (hlanding.symm.trans hlast)
    exact .inr result

theorem awaits_of_mem (hs : s ∈ initial.steps setup moves) (ha : s.after.attends? id = some a)
    (hwaiter : a.part = .waiter) :
    ∃ task, s.after.tasks[id]? = some (.reached (.waiting task (.landing a.flight))) := by
  have hasks : s.after.Asks := by
    refine (invariant_of_mem (P := Asks) ?_ (fun _ move h => asks_step h move) hs).2
    intro progress hmem
    cases hmem
  obtain ⟨task, htask, hattends⟩ := task?_of_attends? ha
  obtain ⟨request, hrequest, hasked⟩ := hasks.exists_request htask
  obtain ⟨hsender, -⟩ | ⟨-, rfl⟩ := EngineTask.eq_of_attends? hattends
  · rw [hwaiter] at hsender
    cases hsender
  · have hasked : request = .landing a.flight := hasked
    exact ⟨_, hasked ▸ hrequest⟩

theorem sender_decides (ha : Took (initial.steps setup moves) id a) (hsender : a.part = .sender) :
    ((initial.run setup moves).engine.landing? a.flight = none ∧
      exits (initial.steps setup moves) id a = []) ∨
    ∃ s, exits (initial.steps setup moves) id a = [s] ∧ (
      (s.move = .cancel id ∧ (initial.run setup moves).engine.landing? a.flight =
        some (.failed Engine.cancelledMessage)) ∨
      ∃ answer value retrying failure?, s.move = .resume id answer ∧
        s.before.task? id = some (.sending a.sync a.key value a.flight retrying) ∧
        (retrying.step setup.retry answer).1 = .ended failure? ∧
        (initial.run setup moves).engine.landing? a.flight = some (.ofFailure? failure?)) := by
  rcases (charted_run moves).course id a ha with ⟨hattends, hexits⟩ | ⟨-, s, hexits⟩
  · exact .inl ⟨(crewed_run moves).landing?_of_sender hattends hsender, hexits⟩
  · refine .inr ⟨s, hexits, ?_⟩
    have hs := (mem_of_exits hexits).1
    cases parting_of_exits hexits with
    | cancelled moved landed => exact .inl ⟨moved, landing?_of_mem hs (landed hsender)⟩
    | settled answer landing moved landed result decided =>
      obtain ⟨value, retrying, failure?, htask, hcall, rfl⟩ := decided hsender
      exact .inr ⟨answer, value, retrying, failure?, moved, htask, hcall,
        landing?_of_mem hs landed⟩

/-- The sender of a message that was delivered has left, and was not cancelled. -/
theorem delivered_by_sender (ha : Took (initial.steps setup moves) id a)
    (hsender : a.part = .sender)
    (hlanding : (initial.run setup moves).engine.landing? a.flight = some .delivered) :
    ∃ s, exits (initial.steps setup moves) id a = [s] ∧
      s.after.result? id = some (Landing.delivered.settle a.part a.key a.sync.result) := by
  rcases sender_decides ha hsender with ⟨hnone, -⟩ | ⟨s, hexits, hends⟩
  · rw [hlanding] at hnone
    cases hnone
  · refine ⟨s, hexits, (result?_of_exits hexits hlanding).resolve_left fun hcancel => ?_⟩
    rcases hends with ⟨-, hfailed⟩ | ⟨answer, -, -, -, hresume, -⟩
    · rw [hlanding] at hfailed
      cases hfailed
    · rw [hcancel] at hresume
      cases hresume

end

/-- In every run, whatever the plans and however their tasks are interleaved, cancelled and
answered, all tasks of a flight have the same outcome. -/
theorem window_run (setup : EngineSetup) (moves : List Move) (flight : Nat) :
    Window setup (initial.steps setup moves) (initial.run setup moves) flight := by
  have hcrewed := @crewed_run setup moves
  have hcharted := @charted_run setup moves
  constructor
  · rintro i j a b ⟨ha, rfl⟩ ⟨hb, hflight⟩
    exact hcharted.same_key i j a b ha hb hflight.symm
  · rintro i a b ⟨ha, rfl⟩ ⟨hb, hflight⟩
    exact hcharted.one_part i a b ha hb hflight.symm
  · rintro ⟨i, a, ha, rfl⟩
    obtain ⟨j, b, hb, hsender, hflight⟩ := hcharted.exists_sender i a ha
    refine ⟨j, ⟨b, ⟨hb, hflight⟩, hsender⟩, ?_⟩
    rintro k ⟨c, ⟨hc, hflight'⟩, hsender'⟩
    exact hcharted.one_sender k j c b hc hb hsender' hsender (hflight'.trans hflight.symm)
  · rintro s hs i a hafter hbefore rfl
    rw [after_eq_of_mem hs] at hafter ⊢
    exact listed_of_comes (crewed_grounded_of_mem hs).1.1 hafter hbefore
  · intro engine sync key value rest hlisted
    rw [Engine.proceedMessages, hlisted]
    rfl
  · rintro s hs i a ha rfl hwaiter
    exact awaits_of_mem hs ha hwaiter
  · rintro s hs i a answer ha rfl hwaiter hmove hlanded
    obtain ⟨landing, hlanding⟩ := Option.isSome_iff_exists.mp hlanded
    refine ⟨ha, ?_⟩
    rw [after_eq_of_mem hs, hmove]
    exact leaves_of_landed (crewed_grounded_of_mem hs).1.1 ha hwaiter hlanding answer
  · rintro i a ⟨ha, rfl⟩
    refine (hcharted.course i a ha).imp_right ?_
    rintro ⟨-, s, hexits⟩
    refine ⟨s, hexits, ?_⟩
    cases parting_of_exits hexits with
    | cancelled moved landed => exact .inl moved
    | settled answer landing moved landed result decided =>
      exact .inr ⟨⟨answer, moved⟩,
        Option.isSome_of_mem (landing?_of_mem (mem_of_exits hexits).1 landed)⟩
  · rintro i a ⟨ha, rfl⟩ hsender
    exact sender_decides ha hsender
  · rintro hlanding i a ⟨ha, rfl⟩
    constructor
    · intro hsender
      have hdelivered := delivered_by_sender ha hsender hlanding
      rwa [hsender] at hdelivered
    · intro hwaiter s hexits
      have hresult := result?_of_exits hexits hlanding
      rwa [hwaiter] at hresult
  · rintro text hlanding i a ⟨ha, rfl⟩ s hexits
    exact result?_of_exits hexits hlanding
  · exact fun s hs i result hresult => result?_of_mem hs hresult
  · exact fun i sync key value retrying htask rest => landing?_run_eq hcrewed htask rest
  · rintro i a ha rfl hwaiter rest hrest
    exact (Alike.cancel ha hwaiter).run hrest
  · intro fault hfault
    refine ⟨?_, fun engine sync key value rest hunlisted hfresh =>
      Engine.proceedMessages_of_fault hfault hunlisted hfresh value rest⟩
    rintro i a ⟨⟨s, hs, ha⟩, -⟩
    obtain ⟨backoff, hfirst⟩ := (crewed_grounded_of_mem hs).2.2 i a ha
    rw [hfault] at hfirst
    cases hfirst

/-- Two syncs meet at a message, the first one is cancelled, and the second one reports it. -/
example (tenant : Tenant) :
    let plan : ExecutionPlan := ⟨[("hello", ⟨.message, .str "Hi!"⟩)], .none, [], []⟩
    let job : Job := .sync "acme" (.str "42") plan
    (initial.run ⟨.standard, fun _ => none⟩ [.start job, .resume 0 (.found tenant), .start job,
      .cancel 0, .resume 1 .done]).tasks[1]? = some (.reached (.finished (.ok (.synced
        ⟨0, 0, 0, ["Failed to send message 'hello': send was cancelled"]⟩)))) := by
  rfl

end Workload

end Automation
