import Automation.Proofs.Service.Pending
import Automation.Proofs.Service.Tasks

/-!
# Shutting a service down

A shutdown drains the service first: it waits until no application in the background is pending.
Then it begins to close the clients, in the same turn, so nothing happens in between. Meanwhile
other tasks go on as ever, and more applications may be scheduled while a shutdown waits for those
that are there. This file shows that no shutdown closes clients under an application.

## Main definitions

* `ManagedDeployment`, `ManagedMove` — a deployment that can be shut down, and what can happen to
  it.
* `ManagedDeployment.closes?` — the deployment in which a shutdown begins to close the clients.
* `ManagedDeployment.Orderly` — what is pending, when a drain is done and when clients are closed.

## Main statements

* `ManagedDeployment.orderly_run` — every run is orderly, however tasks are interleaved.
-/

namespace Automation

/-! ## Shutdowns -/

/-- A deployment with the shutdowns that were asked for, each known by the number of the task in
which it waits until nothing is pending. -/
structure ManagedDeployment where
  site : Deployment
  shutdowns : List Nat

/-- What can happen to a deployment that can be shut down. -/
inductive ManagedMove where
  | service (move : ServiceMove)
  /-- A caller asks for a shutdown. -/
  | shutDown

namespace ManagedDeployment

/-- Whether the wait of a shutdown ends with a move. -/
def releases (managed : ManagedDeployment) (move : ServiceMove) : Bool :=
  match managed.site.turn? move with
  | some (id, _, turn) => decide (id ∈ managed.shutdowns) && (Stage.reached turn.progress).isOver
  | none => false

/-- What happens in the deployment with a move. When the wait of a shutdown ends, the clients begin
to be closed in the same turn. -/
def moves (managed : ManagedDeployment) : ManagedMove → List ServiceMove
  | .shutDown => [.ask .drain]
  | .service move =>
    if managed.releases move then
      [move, .ask .dispose, .launch (managed.site.step move).tasks.length]
    else [move]

/-- The deployment after a move. -/
def step (managed : ManagedDeployment) (move : ManagedMove) : ManagedDeployment where
  site := managed.site.run (managed.moves move)
  shutdowns :=
    match move with
    | .shutDown => managed.shutdowns ++ [managed.site.tasks.length]
    | .service _ => managed.shutdowns

/-- The deployment after moves in a row. -/
def run (managed : ManagedDeployment) (moves : List ManagedMove) : ManagedDeployment :=
  moves.foldl step managed

/-- What happens in the deployment with moves in a row. -/
def allMoves (managed : ManagedDeployment) : List ManagedMove → List ServiceMove
  | [] => []
  | move :: rest => managed.moves move ++ (managed.step move).allMoves rest

/-- The steps of the deployment in a run, in order. -/
def history (managed : ManagedDeployment) (moves : List ManagedMove) : List ServiceStep :=
  managed.site.steps (managed.allMoves moves)

/-- The deployment in which a shutdown begins to close the clients with a move. -/
def closes? (managed : ManagedDeployment) : ManagedMove → Option Deployment
  | .service move => if managed.releases move then some (managed.site.step move) else none
  | .shutDown => none

/-- A service for tenants and with an empty store, before any task. -/
def initial (setup : ServiceSetup) (tenants : List (String × Tenant)) (backend : StoreBackend) :
    ManagedDeployment :=
  ⟨.initial setup tenants backend, []⟩

/-- A shutdown waits in a task that drains the service. -/
def WaitsInDrains (managed : ManagedDeployment) : Prop :=
  ∀ id ∈ managed.shutdowns, ∃ stage, managed.site.tasks[id]? = some ⟨.drain, stage⟩

variable {managed : ManagedDeployment}

theorem site_run (moves : List ManagedMove) :
    (managed.run moves).site = managed.site.run (managed.allMoves moves) := by
  induction moves generalizing managed with
  | nil => rfl
  | cons move rest ih => rw [allMoves, Deployment.run_append]; exact ih

theorem WaitsInDrains.step (h : managed.WaitsInDrains) (move : ManagedMove) :
    (managed.step move).WaitsInDrains := by
  cases move with
  | service move =>
    intro id hid
    obtain ⟨stage, htask⟩ := h id hid
    exact Deployment.call_run htask _
  | shutDown =>
    intro id hid
    rcases List.mem_append.mp hid with hid | hid
    · obtain ⟨stage, htask⟩ := h id hid
      exact Deployment.call_run htask _
    · rw [List.mem_singleton.mp hid]
      exact ⟨.scheduled, List.getElem?_concat_length⟩

theorem WaitsInDrains.run (h : managed.WaitsInDrains) (moves : List ManagedMove) :
    (managed.run moves).WaitsInDrains := by
  induction moves generalizing managed with
  | nil => exact h
  | cons move rest ih => exact ih (h.step move)

/-- The clients begin to be closed with the last turn of a drain. -/
theorem WaitsInDrains.turn_of_closes? (h : managed.WaitsInDrains) {move : ManagedMove}
    {begun : Deployment} (hcloses : managed.closes? move = some begun) :
    ∃ asked id turn result, move = .service asked ∧ begun = managed.site.step asked ∧
      managed.site.turn? asked = some (id, .drain, turn) ∧ turn.progress = .finished result := by
  cases move with
  | shutDown => cases hcloses
  | service asked =>
    rw [closes?] at hcloses
    split at hcloses
    next hreleases =>
      cases hcloses
      rw [releases] at hreleases
      split at hreleases
      next id call turn hturn =>
        obtain ⟨hid, hover⟩ := Bool.and_eq_true_iff.mp hreleases
        obtain ⟨stage, htask⟩ := h id (of_decide_eq_true hid)
        obtain ⟨old, hold, -⟩ := Deployment.getElem?_of_turn? hturn
        obtain ⟨rfl, -⟩ : call = .drain ∧ old = stage := by simpa using hold.symm.trans htask
        cases hprogress : turn.progress with
        | waiting task request =>
          rw [hprogress] at hover
          cases hover
        | finished result => exact ⟨asked, id, turn, result, rfl, rfl, hturn, hprogress⟩
      next => cases hreleases
    next => cases hcloses

/-- The deployment in which clients begin to be closed has their closing as its last task, and that
task has had its first turn. -/
theorem tasks_of_closes? {move : ManagedMove} {begun : Deployment}
    (hcloses : managed.closes? move = some begun) :
    (managed.step move).site.tasks = begun.tasks ++
      [⟨.dispose, .reached (begun.service.start begun.setup .dispose).progress⟩] := by
  cases move with
  | shutDown => cases hcloses
  | service asked =>
    rw [closes?] at hcloses
    split at hcloses
    next hreleases =>
      cases hcloses
      have hlast : ((managed.site.step asked).step (.ask .dispose)).turn?
            (.launch (managed.site.step asked).tasks.length) =
          some ((managed.site.step asked).tasks.length, .dispose,
            (managed.site.step asked).service.start (managed.site.step asked).setup .dispose) :=
        Deployment.turn?_eq_some_iff.mpr (.inl ⟨rfl, List.getElem?_concat_length, rfl⟩)
      have hstep : (managed.step (.service asked)).site =
          ((managed.site.step asked).step (.ask .dispose)).step
            (.launch (managed.site.step asked).tasks.length) := by
        rw [step, moves, if_pos hreleases]
        rfl
      rw [hstep, Deployment.step_of_turn? hlast]
      change (_ ++ [_]).set _ _ ++ [] = _
      rw [List.append_nil, List.set_append_right _ _ le_rfl, Nat.sub_self, List.set_cons_zero]
    next => cases hcloses

/-! ## Runs -/

/-- What holds after every run of a deployment that can be shut down. -/
structure Orderly (history : List ServiceStep) (managed : ManagedDeployment) : Prop where
  /-- The pending applications are those that are not over, and those that are over but have not
  been noted to be. -/
  counted : managed.site.service.pipeline.pending.length =
    managed.site.unfinished + Deployment.unnoted history managed.site
  /-- At least as many applications are pending as are not over. -/
  covered : managed.site.unfinished ≤ managed.site.service.pipeline.pending.length
  /-- Just as many applications are pending as are not over exactly when every end is noted. -/
  exact_iff : managed.site.service.pipeline.pending.length = managed.site.unfinished ↔
    Deployment.unnoted history managed.site = 0
  /-- A drain that ends does so when no application is pending and all of them are over, whenever
  they were scheduled. -/
  drained : ∀ s ∈ history, ∀ (id : Nat) (result : Except Failure ServiceResult),
    s.before.result? id = none → s.after.tasks[id]? = some ⟨.drain, .reached (.finished result)⟩ →
      result = .ok .nothing ∧ s.after.service.pipeline.pending = [] ∧ s.after.unfinished = 0
  /-- A drain that has a turn ends with it exactly when no application is pending. -/
  ends_iff : ∀ s ∈ history, ∀ (id : Nat) (turn : ServiceTurn),
    s.before.turn? s.move = some (id, .drain, turn) →
      (s.after.tasks[id]? = some ⟨.drain, .reached (.finished (.ok .nothing))⟩ ↔
        s.after.service.pipeline.pending = [])
  /-- When a shutdown begins to close the clients, no application is pending, and all that were
  ever scheduled are over. -/
  closing : ∀ move begun, managed.closes? move = some begun →
    (managed.step move).site.tasks = begun.tasks ++
        [⟨.dispose, .reached (begun.service.start begun.setup .dispose).progress⟩] ∧
      begun.service.pipeline.pending = [] ∧
      ∀ number event stage, ⟨.background number event, stage⟩ ∈ begun.tasks →
        stage.isOver = true

section

variable {setup : ServiceSetup} {tenants : List (String × Tenant)} {backend : StoreBackend}

/-- A drain that has a turn in a run ends with it exactly when no application is pending. -/
theorem finished_iff_of_turn? {earlier : List ServiceMove} {move : ServiceMove} {id : Nat}
    {turn : ServiceTurn} {result : Except Failure ServiceResult}
    (hturn : ((Deployment.initial setup tenants backend).run earlier).turn? move =
      some (id, .drain, turn)) :
    turn.progress = .finished result ↔
      ((Deployment.initial setup tenants backend).run
        (earlier ++ [move])).service.pipeline.pending = [] ∧ result = .ok .nothing := by
  rw [Deployment.run_concat]
  exact (Deployment.drainsWait_run setup tenants backend earlier).finishes_iff hturn

theorem drained_of_mem_steps {moves : List ServiceMove} {s : ServiceStep}
    (hs : s ∈ (Deployment.initial setup tenants backend).steps moves) {id : Nat}
    {result : Except Failure ServiceResult} (hbefore : s.before.result? id = none)
    (hafter : s.after.tasks[id]? = some ⟨.drain, .reached (.finished result)⟩) :
    result = .ok .nothing ∧ s.after.service.pipeline.pending = [] ∧ s.after.unfinished = 0 := by
  obtain ⟨earlier, hrun, hnext⟩ := Deployment.exists_run_of_mem_steps hs
  have hroll := Deployment.roll_run setup tenants backend (earlier ++ [s.move])
  rw [Deployment.run_concat, ← hrun] at hnext
  rw [hnext] at hafter
  rcases Deployment.reached_step hafter with hdone | ⟨turn, hturn, hprogress⟩
  · rw [Deployment.result?, hdone] at hbefore
    cases hbefore
  · rw [hrun] at hturn hnext
    obtain ⟨hpending, hresult⟩ := (finished_iff_of_turn? hturn).mp hprogress
    have hlength := hroll.length_pending
    rw [hpending, List.length_nil] at hlength
    rw [hnext, ← Deployment.run_concat]
    exact ⟨hresult, hpending, by omega⟩

theorem ends_iff_of_mem_steps {moves : List ServiceMove} {s : ServiceStep}
    (hs : s ∈ (Deployment.initial setup tenants backend).steps moves) {id : Nat}
    {turn : ServiceTurn} (hturn : s.before.turn? s.move = some (id, .drain, turn)) :
    s.after.tasks[id]? = some ⟨.drain, .reached (.finished (.ok .nothing))⟩ ↔
      s.after.service.pipeline.pending = [] := by
  obtain ⟨earlier, hrun, hnext⟩ := Deployment.exists_run_of_mem_steps hs
  have hafter := Deployment.getElem?_advance hturn
  rw [hrun] at hturn hafter
  rw [← Deployment.run_concat, ← hnext] at hafter
  have hiff : turn.progress = .finished (.ok .nothing) ↔ _ := finished_iff_of_turn? hturn
  rw [← hnext] at hiff
  rw [hafter]
  simpa using hiff

theorem quiet_of_closes? {moves : List ManagedMove} {move : ManagedMove} {begun : Deployment}
    (hcloses : ((initial setup tenants backend).run moves).closes? move = some begun) :
    begun.service.pipeline.pending = [] ∧
      ∀ number event stage, ⟨.background number event, stage⟩ ∈ begun.tasks →
        stage.isOver = true := by
  have hwaits : ((initial setup tenants backend).run moves).WaitsInDrains :=
    WaitsInDrains.run (fun id hid => by cases hid) moves
  obtain ⟨asked, id, turn, result, -, rfl, hturn, hprogress⟩ := hwaits.turn_of_closes? hcloses
  rw [site_run] at hturn ⊢
  obtain ⟨hpending, -⟩ := (finished_iff_of_turn? hturn).mp hprogress
  have hroll := Deployment.roll_run setup tenants backend
    ((initial setup tenants backend).allMoves moves ++ [asked])
  rw [Deployment.run_concat] at hpending hroll
  exact ⟨hpending, fun number event stage htask => hroll.over_of_pending hpending htask⟩

end

/-- In every run, however tasks are interleaved and whatever is asked for meanwhile, nothing
pending is missed when the service is drained or shut down. -/
theorem orderly_run (setup : ServiceSetup) (tenants : List (String × Tenant))
    (backend : StoreBackend) (moves : List ManagedMove) :
    Orderly ((initial setup tenants backend).history moves)
      ((initial setup tenants backend).run moves) := by
  have hcounted : ((initial setup tenants backend).run moves).site.service.pipeline.pending.length =
      ((initial setup tenants backend).run moves).site.unfinished + Deployment.unnoted
        ((initial setup tenants backend).history moves)
        ((initial setup tenants backend).run moves).site := by
    rw [site_run]
    exact (Deployment.roll_run setup tenants backend _).length_pending
  exact
    { counted := hcounted
      covered := hcounted ▸ Nat.le_add_right _ _
      exact_iff := by rw [hcounted, Nat.add_eq_left]
      drained := fun s hs id result => drained_of_mem_steps hs
      ends_iff := fun s hs id turn => ends_iff_of_mem_steps hs
      closing := fun move begun hcloses => ⟨tasks_of_closes? hcloses, quiet_of_closes? hcloses⟩ }

-- A second event is recorded while the shutdown waits for the application of the first: clients are
-- closed only once the second application is over as well, and has been noted to be.
example :
    let setup : ServiceSetup := ⟨⟨.standard, fun _ => none⟩, true, some 1, ⟨0, 0⟩⟩
    let visit : ServiceCall := .record ⟨"acme", .number 7, "visit", [], none⟩
    let busy := (initial setup [] .memory).run [.service (.ask visit), .service (.launch 0), .shutDown,
      .service (.launch 2), .service (.ask visit), .service (.launch 3), .service (.launch 1),
      .service (.resume 1 .done), .service (.noteEnd 1)]
    let calm := busy.run [.service (.launch 4), .service (.resume 4 .done), .service (.noteEnd 4)]
    (busy.closes? (.service (.resume 2 .done))).isSome = false ∧
      (calm.closes? (.service (.resume 2 .done))).isSome = true := by
  decide

end ManagedDeployment

end Automation
