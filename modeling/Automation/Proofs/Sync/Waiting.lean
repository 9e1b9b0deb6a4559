import Automation.Proofs.Sync.Crew
import Mathlib.Logic.Relation

/-!
# Syncs that wait for each other

A sync that comes to a message in flight waits until the flight lands. While it waits it has no
message of its own in flight, so nobody can be waiting for it: the one that it waits for is busy
with a call or a pause, and there are neither chains nor cycles of waiting syncs.

## Main definitions

* `Workload.WaitsFor` — a task waits for the flight of another task.
* `Workload.NoChains` — whoever is waited for is busy and waits for nobody.

## Main statements

* `Workload.noChains_run` — there are no chains of waiting tasks in any run.
-/

namespace Automation.Workload

/-- A task waits for another one: for a flight that the other one sends and that has not landed. -/
def WaitsFor (load : Workload) (id other : Nat) : Prop :=
  ∃ a b, load.attends? id = some a ∧ a.part = .waiter ∧ load.engine.landing? a.flight = none ∧
    load.attends? other = some b ∧ b.part = .sender ∧ b.flight = a.flight

variable {setup : EngineSetup} {load : Workload} {id other third : Nat}

/-- Who is waited for does not wait. -/
theorem not_waitsFor_of_waitsFor (h : load.WaitsFor id other) : ¬ load.WaitsFor other third := by
  obtain ⟨-, b, -, -, -, hb, hsender, -⟩ := h
  rintro ⟨a, -, ha, hwaiter, -⟩
  obtain rfl := Option.some.inj (hb.symm.trans ha)
  rw [hsender] at hwaiter
  cases hwaiter

theorem not_transGen_waitsFor_self : ¬ Relation.TransGen load.WaitsFor id id := by
  intro h
  obtain ⟨other, hfirst, -⟩ := Relation.TransGen.head'_iff.mp h
  obtain ⟨last, -, hlast⟩ := Relation.TransGen.tail'_iff.mp h
  exact not_waitsFor_of_waitsFor hlast hfirst

/-- The flight of a waiter that has not landed is the one under which its key is listed. -/
theorem Crewed.listed_of_waiter (h : load.Crewed) {a : Attendance} (ha : load.attends? id = some a)
    (hwaiter : a.part = .waiter) (hpending : load.engine.landing? a.flight = none) :
    (a.messageKey, a.flight) ∈ load.engine.inFlight := by
  refine (h.waiter_listed_or_landed id a ha hwaiter).resolve_right ?_
  rintro ⟨landing, hlanding⟩
  simp [Engine.landing?, hlanding] at hpending

theorem Crewed.exists_waitsFor (h : load.Crewed) {a : Attendance} (ha : load.attends? id = some a)
    (hwaiter : a.part = .waiter) (hpending : load.engine.landing? a.flight = none) :
    ∃ other b, load.attends? other = some b ∧ b.part = .sender ∧ b.messageKey = a.messageKey ∧
      b.flight = a.flight ∧ load.WaitsFor id other := by
  obtain ⟨other, b, hb, hsender, hkey, hflight⟩ :=
    h.exists_sender _ _ (h.listed_of_waiter ha hwaiter hpending)
  exact ⟨other, b, hb, hsender, hkey, hflight, a, b, ha, hwaiter, hpending, hb, hsender, hflight⟩

/-- Nobody waits for a task that waits itself. -/
structure NoChains (load : Workload) : Prop where
  /-- Whenever a sync waits for a flight that has not landed, its key is in flight as that flight.
  The owner is a different task that sends the message of the same key: it has a call or a pause
  of its own under way, and it waits for nobody. -/
  owner_busy : ∀ id sync key flight, load.task? id = some (.awaiting sync key flight) →
    load.engine.landing? flight = none →
    load.engine.inFlight.lookup (sync.messageKey key) = some flight ∧
    ∃ other owner ownKey value retrying request, other ≠ id ∧
      load.tasks[other]? = some (.reached (.waiting
        (.sending owner ownKey value flight retrying) request)) ∧
      owner.messageKey ownKey = sync.messageKey key ∧
      (request = .call owner.client owner.conversation (.send (Platform.content value)) ∨
        ∃ seconds, request = .pause seconds) ∧
      load.WaitsFor id other ∧ ∀ third, ¬ load.WaitsFor other third
  no_chain : ∀ id other third, load.WaitsFor id other → ¬ load.WaitsFor other third
  no_cycle : ∀ id, ¬ Relation.TransGen load.WaitsFor id id

theorem Crewed.noChains (h : load.Crewed) (hasks : load.Asks) : load.NoChains := by
  refine ⟨?_, fun _ _ _ => not_waitsFor_of_waitsFor, fun _ => not_transGen_waitsFor_self⟩
  intro id sync key flight htask hpending
  have ha : load.attends? id = some ⟨.waiter, sync, key, flight⟩ := by
    simp [attends?_eq_bind, htask, EngineTask.attends?]
  have hlisted := h.listed_of_waiter ha rfl hpending
  refine ⟨h.lookup_eq_some_iff.mpr hlisted, ?_⟩
  obtain ⟨other, b, hb, hsender, hkey, hflight, hwaits⟩ := h.exists_waitsFor ha rfl hpending
  rw [attends?_eq_bind] at hb
  obtain ⟨task, htask', hb⟩ := Option.bind_eq_some_iff.mp hb
  obtain ⟨-, value, retrying, rfl⟩ | ⟨hwaiter, -⟩ := EngineTask.eq_of_attends? hb
  · obtain ⟨request, hrequest, hasked⟩ := hasks.exists_request htask'
    have hne : other ≠ id := by
      rintro rfl
      exact not_waitsFor_of_waitsFor hwaits hwaits
    have hflight : b.flight = flight := hflight
    rw [hflight] at hrequest
    refine ⟨other, b.sync, b.key, value, retrying, request, hne, hrequest, hkey, ?_,
      hwaits, fun _ => not_waitsFor_of_waitsFor hwaits⟩
    cases retrying with
    | trying backoff => exact .inl hasked
    | pausing backoff => exact .inr hasked
  · rw [hsender] at hwaiter
    cases hwaiter

/-- In every run, whatever the plans and however their tasks are interleaved, cancelled and
answered, nobody ever waits for a task that waits. -/
theorem noChains_run (setup : EngineSetup) (moves : List Move) :
    (initial.run setup moves).NoChains :=
  (crewed_run moves).noChains (asks_run moves)

/-- Two plans list the same keys in opposite orders. The sync that comes to the key of the other one
waits, and the other one passes over the key that was sent meanwhile. -/
example (tenant : Tenant) :
    let entry (key : String) : String × PersistEntry := (key, ⟨.message, .str key⟩)
    let job (first second : String) : Job :=
      .sync "acme" (.str "42") ⟨[entry first, entry second], .none, [], []⟩
    let load := initial.run ⟨.standard, fun _ => none⟩ [.start (job "a" "b"),
      .resume 0 (.found tenant), .start (job "b" "a"), .resume 0 .done]
    (load.attends? 0).map Attendance.part = some .waiter ∧
      (load.run ⟨.standard, fun _ => none⟩ [.resume 1 .done]).tasks[1]? =
        some (.reached (.finished (.ok (.synced ⟨1, 0, 0, []⟩)))) := by
  constructor <;> rfl

end Automation.Workload
