import Automation.Proofs.Sync.Crew

/-!
# A message is delivered at most once

A key in flight is not sent again, and neither is one that counts as sent, unless the cache was
cleared. So the calls that return successfully for a key, together with the send of it that is
under way, are at most as many as the clears of the cache and one more.

## Main definitions

* `Workload.deliveries` — the messages whose sends have returned successfully, in order.
* `Workload.clears` — how often the cache was cleared.
* `Engine.Tallied` — the invariant.
* `Workload.AtMostOnce` — what is true of the sends of a run.

## Main statements

* `Workload.tallied_step` — every step keeps the tally.
* `Workload.atMostOnce_run` — at most one successful send for each clear of the cache and one
  more, and never two sends of a message at a time.
-/

namespace Automation

namespace Engine

variable {engine other : Engine} {options : RetryOptions} {seat : Nat → Option Attendance}
  {s : Option Attendance} {id : Nat} {a : Attendance} {delivered : String → Nat} {clears : Nat}
  {key key' : String}

theorem mem_processed_reserve :
    key' ∈ (engine.reserve key).1.processed ↔ key' = key ∨ key' ∈ engine.processed := by
  simp [reserve]

theorem mem_keys_reserve : key' ∈ (engine.reserve key).1.inFlight.map Prod.fst ↔
    key' = key ∨ key' ∈ engine.inFlight.map Prod.fst := by
  simp [reserve]

theorem mem_keys_land {flight : Nat} {landing : Landing} :
    key' ∈ (engine.land key flight landing).inFlight.map Prod.fst ↔
      key' ∈ engine.inFlight.map Prod.fst ∧ key' ≠ key := by
  simp [land]

theorem mem_processed_land_failed {flight : Nat} {message : String} :
    key' ∈ (engine.land key flight (.failed message)).processed ↔
      key' ∈ engine.processed ∧ key' ≠ key := by
  simp [land]

/-- The deliveries of a key and the send of it that is under way are at most as many as the clears
of the cache, with one more while the key counts as processed. -/
def Tallied (engine : Engine) (delivered : String → Nat) (clears : Nat) : Prop :=
  ∀ key, delivered key + (if key ∈ engine.inFlight.map Prod.fst then 1 else 0) ≤
    clears + if key ∈ engine.processed then 1 else 0

namespace Tallied

theorem of_keeps (h : engine.Tallied delivered clears) (hkeep : engine.Keeps other) :
    other.Tallied delivered clears := by
  intro key
  rw [hkeep.processed, hkeep.inFlight]
  exact h key

theorem enter (h : engine.Tallied delivered clears) (hopens : engine.Enters options other s) :
    other.Tallied delivered clears := by
  cases hopens with
  | away kept => exact h.of_keeps kept
  | joins a part kept listed => exact h.of_keeps kept
  | sends a before backoff part kept unlisted fresh first flight reserves =>
    intro key
    have hkey := h.of_keeps kept key
    have hunlisted := key_unlisted (kept.inFlight ▸ unlisted)
    have hfresh := kept.processed ▸ fresh
    simp only [reserves, mem_keys_reserve, mem_processed_reserve]
    -- the key that takes off is new to both tables, the others stay where they are
    by_cases heq : key = a.messageKey
    · subst heq
      rw [if_neg hunlisted, if_neg hfresh] at hkey
      rw [if_pos (.inl rfl), if_pos (.inl rfl)]
      omega
    · simpa only [heq, false_or] using hkey

/-- A task leaves the flight that it attends. The send that was under way is a delivery now, or
else its key is not processed any more. -/
theorem conclude (h : engine.Tallied delivered clears) (hcrewed : engine.Crewed seat)
    (ha : seat id = some a) (landing : Landing) :
    (engine.conclude a landing).Tallied
      (fun key => delivered key +
        if a.part = .sender ∧ landing = .delivered ∧ a.messageKey = key then 1 else 0) clears := by
  intro key
  have hkey := h key
  cases hpart : a.part with
  | waiter =>
    rw [conclude_of_waiter hpart]
    simpa using hkey
  | sender =>
    have hlisted : a.messageKey ∈ engine.inFlight.map Prod.fst :=
      List.mem_map_of_mem (hcrewed.sender_listed id a ha hpart)
    rw [conclude_of_sender hpart]
    by_cases heq : key = a.messageKey
    · subst heq
      have hunlisted : a.messageKey ∉
          (engine.land a.messageKey a.flight landing).inFlight.map Prod.fst := by
        simp [mem_keys_land]
      rw [if_pos hlisted] at hkey
      rw [if_neg hunlisted]
      -- the send under way turns into a delivery, or the key is forgotten with it
      cases landing with
      | delivered => simpa [land] using hkey
      | failed message =>
        have hgone : a.messageKey ∉
            (engine.land a.messageKey a.flight (.failed message)).processed := by
          simp [mem_processed_land_failed]
        rw [if_neg hgone]
        split at hkey <;> simp <;> omega
    · have hinFlight : key ∈ (engine.land a.messageKey a.flight landing).inFlight.map Prod.fst ↔
          key ∈ engine.inFlight.map Prod.fst := by
        simp [mem_keys_land, heq]
      have hprocessed : key ∈ (engine.land a.messageKey a.flight landing).processed ↔
          key ∈ engine.processed := by
        cases landing with
        | delivered => rfl
        | failed message => simp [mem_processed_land_failed, heq]
      simpa only [hinFlight, hprocessed, Ne.symm heq, and_false, if_false, Nat.add_zero] using hkey

end Tallied

end Engine

namespace Workload

/-- The messages whose sends have returned successfully, in order. -/
def deliveries (steps : List Step) : List MessageId := steps.filterMap Step.sent?

/-- How often the cache was cleared. -/
def clears (steps : List Step) : Nat := steps.countP fun s => s.move = .clearCache

variable {setup : EngineSetup} {load : Workload}

theorem deliveries_concat (steps : List Step) (s : Step) :
    deliveries (steps ++ [s]) = deliveries steps ++ s.sent?.toList := by
  cases hsent : s.sent? <;> simp [deliveries, hsent]

theorem clears_concat (steps : List Step) (s : Step) :
    clears (steps ++ [s]) = clears steps + if s.move = .clearCache then 1 else 0 := by
  simp [clears, List.countP_append, List.countP_singleton]

theorem tallied_step (hcrewed : load.Crewed) {delivered : String → Nat} {clears : Nat}
    (h : load.engine.Tallied delivered clears) (move : Move) :
    (load.step setup move).engine.Tallied
      (fun key => delivered key + (load.sent? move).toList.countP fun id => id.messageKey = key)
      (clears + if move = .clearCache then 1 else 0) := by
  have hmore : ∀ {engine : Engine} {delivered : String → Nat}, engine.Tallied delivered clears →
      engine.Tallied delivered (clears + if move = .clearCache then 1 else 0) := by
    intro engine delivered htallied key
    exact (htallied key).trans (by omega)
  cases shift_step setup load move with
  | rests processed inFlight flights seats unsent =>
    rw [unsent]
    refine hmore fun key => ?_
    rw [processed, inFlight]
    exact h key
  | clears cleared processed inFlight flights seats =>
    subst cleared
    intro key
    have hkey := h key
    simp only [processed, inFlight, sent?, Option.toList_none, List.countP_nil, if_true,
      List.not_mem_nil, if_false]
    -- one more clear makes up for the key that is forgotten
    have hone : (if key ∈ load.engine.processed then 1 else 0) ≤ 1 := by split <;> omega
    omega
  | enters id seat idle live opens seats unsent =>
    rw [unsent]
    exact hmore (h.enter opens)
  | leaves id a landing seat attending moved waited opens seats sent =>
    have hcount : ∀ key, ((load.sent? move).toList.countP fun id => id.messageKey = key) =
        if a.part = .sender ∧ landing = .delivered ∧ a.messageKey = key then 1 else 0 := by
      intro key
      rw [sent, ← Attendance.messageKey_message]
      by_cases hd : a.part = .sender ∧ landing = .delivered
      · simp [hd, List.countP_singleton]
      · rw [if_neg hd, if_neg fun h => hd ⟨h.1, h.2.1⟩]
        rfl
    simp only [hcount]
    exact hmore ((h.conclude hcrewed attending landing).enter opens)

theorem tallied_run (moves : List Move) : (initial.run setup moves).engine.Tallied
    (fun key => (deliveries (initial.steps setup moves)).countP fun id => id.messageKey = key)
    (clears (initial.steps setup moves)) := by
  refine (run_induction (P := fun steps load => load.Crewed ∧ load.engine.Tallied
    (fun key => (deliveries steps).countP fun id => id.messageKey = key) (clears steps))
    ⟨crewed_initial, fun key => by simp [initial, Engine.initial, deliveries, clears]⟩
    ?_ moves).2
  rintro steps load move ⟨hcrewed, htallied⟩
  refine ⟨crewed_step hcrewed move, ?_⟩
  simpa only [deliveries_concat, clears_concat, List.countP_append, Step.sent?] using
    tallied_step hcrewed htallied move

/-- What is true of the sends of a run. -/
structure AtMostOnce (steps : List Step) (last : Workload) : Prop where
  /-- The calls of syncs that send a message are those whose success is a delivery. -/
  calls : ∀ (i : Nat) (task : EngineTask) (request : Request),
    last.tasks[i]? = some (.reached (.waiting task request)) → task.ofSync = true →
    ((∃ client conversation content, request = .call client conversation (.send content)) ↔
      ∃ id, task.calling? = some id)
  /-- A message is delivered at most once, and once more for each clear of the cache. -/
  count_le : ∀ id, (deliveries steps).count id ≤ 1 + clears steps
  /-- The same goes for all messages of one rendered key together. -/
  countP_le : ∀ key, ((deliveries steps).countP fun id => id.messageKey = key) ≤ 1 + clears steps
  /-- There are no two tasks at a time that send messages of one rendered key, from the first call
  for it to the last pause. -/
  one_sender : ∀ i j a b, last.attends? i = some a → last.attends? j = some b →
    a.part = .sender → b.part = .sender → a.messageKey = b.messageKey → i = j

theorem countP_deliveries_le (moves : List Move) (key : String) :
    ((deliveries (initial.steps setup moves)).countP fun id => id.messageKey = key) ≤
      1 + clears (initial.steps setup moves) := by
  refine (Nat.le_of_add_right_le (@tallied_run setup moves key)).trans ?_
  split <;> omega

/-- In every run, whatever the plans and however their tasks are interleaved, cancelled and
answered, a message is delivered at most once for each time at which the cache is empty. -/
theorem atMostOnce_run (setup : EngineSetup) (moves : List Move) :
    AtMostOnce (initial.steps setup moves) (initial.run setup moves) := by
  refine ⟨?_, fun id => ?_, countP_deliveries_le moves, ?_⟩
  · intro i task request htask hsync
    have hasks : task.Asks request := asks_run moves _ (List.mem_of_getElem? htask)
    exact hasks.send_iff hsync
  · refine le_trans (List.countP_mono_left fun sent _ hsent => ?_)
      (countP_deliveries_le moves id.messageKey)
    rw [beq_iff_eq] at hsent
    simp [hsent]
  · intro i j a b ha hb hsender hsender' hkey
    have hcrewed := @crewed_run setup moves
    have hlisted := hcrewed.sender_listed i a ha hsender
    rw [hkey] at hlisted
    have hflight := hcrewed.flight_eq hlisted (hcrewed.sender_listed j b hb hsender')
    exact hcrewed.sender_unique i j a b ha hb hsender hsender' hflight

end Workload

end Automation
