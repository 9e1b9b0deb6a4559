import Automation.Proofs.Sync.Delivery

/-!
# What the cache remembers

A key counts as processed from the moment at which its send takes off. It stays so when the send
is delivered, and is forgotten when the send fails, when its sync is cancelled, and when the cache
is cleared. So the cache is a ledger of the sends that took off since it was last cleared: of those
under way, and of those that were delivered.

## Main definitions

* `Step.Starts`, `Step.Delivers` — the step with which a send takes off, and the one with which it
  returns successfully.
* `Workload.sinceClear` — the part of a run since the cache was last cleared.
* `Engine.Ledger` — the invariant.
* `Workload.Consistent` — what the cache and the table of messages in flight say about a run.

## Main statements

* `Workload.ledger_step` — every step keeps the ledger.
* `Workload.consistent_run` — the two tables are consistent in every run.
-/

namespace Automation

/-- A task sends as an attendance says. -/
def Sends (seat : Nat → Option Attendance) (a : Attendance) : Prop :=
  a.part = .sender ∧ ∃ id, seat id = some a

namespace Step

/-- A send takes off with a step. -/
def Starts (s : Step) (a : Attendance) : Prop :=
  Sends s.after.attends? a ∧ ¬ Sends s.before.attends? a

/-- A send is over with a step: it was delivered, has failed, or its sync was cancelled. -/
def Ends (s : Step) (a : Attendance) : Prop :=
  Sends s.before.attends? a ∧ ¬ Sends s.after.attends? a

/-- A send returns successfully with a step. -/
def Delivers (s : Step) (a : Attendance) : Prop :=
  ∃ id, s.move.task? = some id ∧ s.before.attends? id = some a ∧ s.sent? = some a.message

end Step

/-- What counts as processed are the keys of the sends that have started and are under way or
delivered. A send under way has no delivery of its key before it. -/
structure Engine.Ledger (engine : Engine) (seat : Nat → Option Attendance)
    (started delivered : Attendance → Prop) : Prop where
  mem_processed : ∀ key, key ∈ engine.processed ↔
    ∃ a, a.messageKey = key ∧ started a ∧ (Sends seat a ∨ delivered a)
  ne_of_sends : ∀ a b, Sends seat a → started b → delivered b → a.messageKey ≠ b.messageKey
  delivered_lt : ∀ a, delivered a → a.flight < engine.flights.length

section

variable {engine other : Engine} {options : RetryOptions} {seat : Nat → Option Attendance}
  {s : Option Attendance} {id : Nat} {a b : Attendance} {started delivered : Attendance → Prop}

theorem Engine.Crewed.lt_of_sends (h : engine.Crewed seat) (ha : Sends seat a) :
    a.flight < engine.flights.length := by
  obtain ⟨hsender, id, hid⟩ := ha
  exact h.lt_of_listed (h.sender_listed id a hid hsender)

/-- There is one send of a key at a time. -/
theorem Engine.Crewed.eq_of_sends (h : engine.Crewed seat) (ha : Sends seat a) (hb : Sends seat b)
    (hkey : a.messageKey = b.messageKey) : a = b := by
  obtain ⟨hsender, i, hi⟩ := ha
  obtain ⟨hsender', j, hj⟩ := hb
  have hflight : a.flight = b.flight := by
    refine h.flight_eq (h.sender_listed i a hi hsender) ?_
    rw [hkey]
    exact h.sender_listed j b hj hsender'
  obtain rfl := h.sender_unique i j a b hi hj hsender hsender' hflight
  exact Option.some.inj (hi.symm.trans hj)

theorem sends_update_none (hcrewed : engine.Crewed seat) (ha : seat id = some a) :
    Sends (Function.update seat id none) b ↔ Sends seat b ∧ b ≠ a := by
  simp only [Sends, update_none_eq_some_iff]
  constructor
  · rintro ⟨hsender, j, hne, hj⟩
    refine ⟨⟨hsender, j, hj⟩, ?_⟩
    rintro rfl
    exact hne (hcrewed.sender_unique j id b b hj ha hsender hsender rfl)
  · rintro ⟨⟨hsender, j, hj⟩, hne⟩
    refine ⟨hsender, j, ?_, hj⟩
    rintro rfl
    exact hne (Option.some.inj (hj.symm.trans ha))

theorem sends_update (hidle : seat id = none) :
    Sends (Function.update seat id s) b ↔ Sends seat b ∨ (b.part = .sender ∧ s = some b) := by
  simp only [Sends, update_eq_some_iff]
  constructor
  · rintro ⟨hsender, j, ⟨-, hs⟩ | ⟨-, hj⟩⟩
    · exact .inr ⟨hsender, hs⟩
    · exact .inl ⟨hsender, j, hj⟩
  · rintro (⟨hsender, j, hj⟩ | ⟨hsender, hs⟩)
    · refine ⟨hsender, j, .inr ⟨?_, hj⟩⟩
      rintro rfl
      simp [hidle] at hj
    · exact ⟨hsender, id, .inl ⟨rfl, hs⟩⟩

namespace Engine.Ledger

theorem of_keeps (h : engine.Ledger seat started delivered) (hkeep : engine.Keeps other) :
    other.Ledger seat started delivered := by
  refine ⟨?_, h.ne_of_sends, fun a ha => (h.delivered_lt a ha).trans_le hkeep.length_le⟩
  rw [hkeep.processed]
  exact h.mem_processed

/-- A task leaves the flight that it attends. -/
theorem conclude (h : engine.Ledger seat started delivered) (hcrewed : engine.Crewed seat)
    (ha : seat id = some a) (landing : Landing) :
    (engine.conclude a landing).Ledger (Function.update seat id none) started
      (fun b => delivered b ∨ (b = a ∧ a.part = .sender ∧ landing = .delivered)) := by
  have hlt : ∀ b, delivered b ∨ (b = a ∧ a.part = .sender ∧ landing = .delivered) →
      b.flight < (engine.conclude a landing).flights.length := by
    rw [flights_conclude_length]
    rintro b (hb | ⟨rfl, hsender, -⟩)
    · exact h.delivered_lt b hb
    · exact hcrewed.lt_of_sends ⟨hsender, id, ha⟩
  cases hpart : a.part with
  | waiter =>
    have hsends : ∀ b, Sends (Function.update seat id none) b ↔ Sends seat b := by
      intro b
      refine (sends_update_none hcrewed ha).trans (and_iff_left_of_imp ?_)
      rintro hb rfl
      rw [hb.1] at hpart
      cases hpart
    rw [hpart] at hlt
    refine ⟨?_, ?_, hlt⟩
    · simpa [conclude_of_waiter hpart, hsends] using h.mem_processed
    · simpa [hsends] using h.ne_of_sends
  | sender =>
    have hsend : Sends seat a := ⟨hpart, id, ha⟩
    rw [hpart] at hlt
    refine ⟨?_, ?_, hlt⟩
    · intro key
      simp only [conclude_of_sender hpart, sends_update_none hcrewed ha, true_and]
      cases landing with
      | delivered =>
        refine (h.mem_processed key).trans (exists_congr fun b => and_congr_right fun _ =>
          and_congr_right fun _ => ?_)
        by_cases hb : b = a
        · simp [hb, hsend]
        · simp [hb]
      | failed message =>
        -- of the key that is forgotten there is neither another send nor a delivery
        rw [mem_processed_land_failed, h.mem_processed]
        constructor
        · rintro ⟨⟨b, hkey, hstarted, hb⟩, hne⟩
          refine ⟨b, hkey, hstarted, hb.imp (fun hb => ⟨hb, ?_⟩) .inl⟩
          rintro rfl
          exact hne hkey.symm
        · rintro ⟨b, hkey, hstarted, ⟨hb, hne⟩ | hb | ⟨-, hlanding⟩⟩
          · refine ⟨⟨b, hkey, hstarted, .inl hb⟩, fun heq => hne ?_⟩
            exact hcrewed.eq_of_sends hb hsend (hkey.trans heq)
          · refine ⟨⟨b, hkey, hstarted, .inr hb⟩, fun heq => ?_⟩
            exact h.ne_of_sends a b hsend hstarted hb (heq.symm.trans hkey.symm)
          · cases hlanding
    · intro b c hb hc hdelivered hkey
      obtain ⟨hb, hne⟩ := (sends_update_none hcrewed ha).mp hb
      rcases hdelivered with hdelivered | ⟨rfl, -⟩
      · exact h.ne_of_sends b c hb hc hdelivered hkey
      · exact hne (hcrewed.eq_of_sends hb hsend hkey)

/-- A task that attends no flight does what a turn may do. -/
theorem enter (h : engine.Ledger seat started delivered) (hidle : seat id = none)
    (hopens : engine.Enters options other s) :
    other.Ledger (Function.update seat id s)
      (fun b => started b ∨ (b.part = .sender ∧ s = some b)) delivered := by
  cases hopens with
  | away kept =>
    rw [← hidle, Function.update_eq_self, hidle]
    simpa using h.of_keeps kept
  | joins a part kept listed =>
    have hnone : ∀ b : Attendance, ¬ (b.part = .sender ∧ some a = some b) := by
      rintro b ⟨hsender, heq⟩
      rw [← Option.some.inj heq, part] at hsender
      cases hsender
    have hkept := h.of_keeps kept
    refine ⟨?_, ?_, hkept.delivered_lt⟩
    · simpa only [sends_update hidle, hnone, or_false] using hkept.mem_processed
    · simpa only [sends_update hidle, hnone, or_false] using hkept.ne_of_sends
  | sends a before backoff part kept unlisted fresh first flight reserves =>
    have hnew : ∀ b : Attendance, (b.part = .sender ∧ some a = some b) ↔ b = a := by
      intro b
      constructor
      · exact fun hb => (Option.some.inj hb.2).symm
      · rintro rfl
        exact ⟨part, rfl⟩
    have hkept := h.of_keeps kept
    rw [← kept.processed] at fresh
    -- the flight is new, so nothing is known of it yet
    have hundelivered : ¬ delivered a := fun ha => (hkept.delivered_lt a ha).ne flight
    simp only [hnew]
    refine ⟨?_, ?_, ?_⟩
    · intro key
      rw [reserves, mem_processed_reserve, hkept.mem_processed]
      simp only [sends_update hidle, hnew]
      constructor
      · rintro (rfl | ⟨b, hkey, hstarted, hb⟩)
        · exact ⟨a, rfl, .inr rfl, .inl (.inr rfl)⟩
        · exact ⟨b, hkey, .inl hstarted, hb.imp_left .inl⟩
      · rintro ⟨b, rfl, hstarted, hb⟩
        by_cases heq : b = a
        · exact .inl (congrArg Attendance.messageKey heq)
        · simp only [heq, or_false] at hstarted hb
          exact .inr ⟨b, rfl, hstarted, hb⟩
    · intro b c hb hc hdelivered hkey
      have hstarted : started c := hc.resolve_right fun heq => hundelivered (heq ▸ hdelivered)
      rcases (sends_update hidle).mp hb with hb | hb
      · exact hkept.ne_of_sends b c hb hstarted hdelivered hkey
      · obtain rfl := (hnew b).mp hb
        exact fresh ((hkept.mem_processed _).mpr ⟨c, hkey.symm, hstarted, .inr hdelivered⟩)
    · intro b hb
      have hlt := hkept.delivered_lt b hb
      simp only [reserves, reserve, List.length_append]
      omega

end Engine.Ledger

end

/-- The message that a task sends, by its key and its flight. -/
def Standing.held? (standing : Standing) : Option (String × Nat) :=
  match standing.attends? with
  | some a =>
    match a.part with
    | .sender => some (a.messageKey, a.flight)
    | .waiter => none
  | none => none

theorem Standing.held?_eq_some_iff {standing : Standing} {entry : String × Nat} :
    standing.held? = some entry ↔
      ∃ a, standing.attends? = some a ∧ a.part = .sender ∧ (a.messageKey, a.flight) = entry := by
  cases hattends : standing.attends? with
  | none => simp [held?, hattends]
  | some a => cases hpart : a.part <;> simp [held?, hattends, hpart]

namespace Workload

/-- The part of a run since the cache was last cleared. -/
def sinceClear (steps : List Step) : List Step :=
  steps.rtakeWhile fun s => s.move ≠ .clearCache

/-- No sync is under way. -/
def Quiet (load : Workload) : Prop :=
  ∀ id task, load.task? id = some task → task.ofSync = false

variable {setup : EngineSetup} {load : Workload} {started delivered : Attendance → Prop}

theorem starts_iff_of_update (hcrewed : load.Crewed) {move : Move} {next : Workload} {id : Nat}
    {seat : Option Attendance} {engine : Engine}
    (hopens : engine.Enters setup.retry next.engine seat)
    (hlength : engine.flights.length = load.engine.flights.length)
    (hseats : next.attends? = Function.update load.attends? id seat) {a : Attendance} :
    (Step.mk load move next).Starts a ↔ a.part = .sender ∧ seat = some a := by
  constructor
  · rintro ⟨⟨hsender, j, hj⟩, hbefore⟩
    simp only [hseats] at hj
    rcases update_eq_some_iff.mp hj with ⟨-, hs⟩ | ⟨-, hj⟩
    · exact ⟨hsender, hs⟩
    · exact absurd ⟨hsender, j, hj⟩ hbefore
  · rintro ⟨hsender, rfl⟩
    refine ⟨⟨hsender, id, by simp [hseats]⟩, fun hbefore => ?_⟩
    have hlt := hcrewed.lt_of_sends hbefore
    have hle := hopens.le_flight hsender
    omega

theorem not_starts_of_eq {move : Move} {next : Workload} (hseats : next.attends? = load.attends?)
    (a : Attendance) : ¬ (Step.mk load move next).Starts a := by
  rintro ⟨hafter, hbefore⟩
  exact hbefore (by simpa [hseats] using hafter)

theorem not_delivers_of_unsent {move : Move} {next : Workload} (hunsent : load.sent? move = none)
    (a : Attendance) : ¬ (Step.mk load move next).Delivers a := by
  rintro ⟨-, -, -, hsent⟩
  simp [Step.sent?, hunsent] at hsent

/-- When the cache is cleared, the ledger goes on without the sends that have started. -/
theorem ledger_clear (h : load.engine.Ledger load.attends? started delivered) :
    (load.step setup .clearCache).engine.Ledger (load.step setup .clearCache).attends?
      (fun _ => False) delivered := by
  refine ⟨?_, ?_, h.delivered_lt⟩
  · simp [step, Engine.clearCache]
  · simp

/-- Every other step keeps the ledger, with the send that takes off and the one that is delivered
with it. -/
theorem ledger_step (hcrewed : load.Crewed)
    (h : load.engine.Ledger load.attends? started delivered) {move : Move}
    (hmove : move ≠ .clearCache) {s : Step} (hs : s = ⟨load, move, load.step setup move⟩) :
    s.after.engine.Ledger s.after.attends? (fun a => started a ∨ s.Starts a)
      (fun a => delivered a ∨ s.Delivers a) := by
  subst hs
  cases shift_step setup load move with
  | rests processed inFlight flights seats unsent =>
    simp only [not_starts_of_eq seats, not_delivers_of_unsent unsent, or_false]
    refine ⟨?_, ?_, ?_⟩
    · rw [processed, seats]
      exact h.mem_processed
    · rw [seats]
      exact h.ne_of_sends
    · rw [flights]
      exact h.delivered_lt
  | clears cleared => exact absurd cleared hmove
  | enters id seat idle live opens seats unsent =>
    simp only [starts_iff_of_update hcrewed opens rfl seats, not_delivers_of_unsent unsent,
      or_false]
    rw [seats]
    exact h.enter idle opens
  | leaves id a landing seat attending moved waited opens seats sent =>
    have hdelivers : ∀ b, (Step.mk load move (load.step setup move)).Delivers b ↔
        b = a ∧ a.part = .sender ∧ landing = .delivered := by
      intro b
      constructor
      · rintro ⟨j, hj, hb, hsent⟩
        obtain rfl := Option.some.inj (moved.symm.trans hj)
        refine ⟨Option.some.inj (hb.symm.trans attending), ?_⟩
        by_contra hd
        rw [Step.sent?, sent, if_neg hd] at hsent
        cases hsent
      · rintro ⟨rfl, hd⟩
        exact ⟨id, moved, attending, sent.trans (if_pos hd)⟩
    simp only [hdelivers,
      starts_iff_of_update hcrewed opens (Engine.flights_conclude_length ..) seats]
    have hturn := (h.conclude hcrewed attending landing).enter (Function.update_self ..) opens
    rwa [Function.update_idem, ← seats] at hturn

theorem sinceClear_concat (steps : List Step) (s : Step) :
    sinceClear (steps ++ [s]) = if s.move = .clearCache then [] else sinceClear steps ++ [s] := by
  split
  next h => exact List.rtakeWhile_concat_neg _ _ _ (by simpa using h)
  next h => exact List.rtakeWhile_concat_pos _ _ _ (by simpa using h)

theorem ledger_run (moves : List Move) :
    (initial.run setup moves).engine.Ledger (initial.run setup moves).attends?
      (fun a => ∃ s ∈ sinceClear (initial.steps setup moves), s.Starts a)
      (fun a => ∃ s ∈ initial.steps setup moves, s.Delivers a) := by
  refine (run_induction (P := fun steps load => load.Crewed ∧
    load.engine.Ledger load.attends? (fun a => ∃ s ∈ sinceClear steps, s.Starts a)
      (fun a => ∃ s ∈ steps, s.Delivers a)) ⟨crewed_initial, ?_⟩ ?_ moves).2
  · constructor <;> simp [initial, Engine.initial, sinceClear]
  rintro steps load move ⟨hcrewed, hledger⟩
  refine ⟨crewed_step hcrewed move, ?_⟩
  rw [sinceClear_concat]
  by_cases hmove : move = .clearCache
  · subst hmove
    have hnone : ∀ a, ¬ (Step.mk load .clearCache (load.step setup .clearCache)).Delivers a :=
      not_delivers_of_unsent rfl
    simpa [hnone, or_and_right, exists_or] using ledger_clear hledger
  · simpa [hmove, or_and_right, exists_or] using ledger_step hcrewed hledger hmove rfl

theorem le_flight_of_starts (hcrewed : load.Crewed) {move : Move} {a : Attendance}
    (h : (Step.mk load move (load.step setup move)).Starts a) :
    load.engine.flights.length ≤ a.flight := by
  cases shift_step setup load move with
  | rests processed inFlight flights seats => exact absurd h (not_starts_of_eq seats a)
  | clears cleared processed inFlight flights seats => exact absurd h (not_starts_of_eq seats a)
  | enters id seat idle live opens seats =>
    obtain ⟨hsender, rfl⟩ := (starts_iff_of_update hcrewed opens rfl seats).mp h
    exact opens.le_flight hsender
  | leaves id b landing seat attending moved waited opens seats =>
    have hlength := Engine.flights_conclude_length load.engine b landing
    obtain ⟨hsender, rfl⟩ := (starts_iff_of_update hcrewed opens hlength seats).mp h
    rw [← hlength]
    exact opens.le_flight hsender

theorem flights_length_le_step (setup : EngineSetup) (load : Workload) (move : Move) :
    load.engine.flights.length ≤ (load.step setup move).engine.flights.length := by
  cases shift_step setup load move with
  | rests processed inFlight flights => exact flights ▸ le_rfl
  | clears cleared processed inFlight flights => exact flights ▸ le_rfl
  | enters id seat idle live opens => exact opens.length_le
  | leaves id a landing seat attending moved waited opens =>
    exact (Engine.flights_conclude_length ..).symm.trans_le opens.length_le

/-- A task sends as long as its send has started and is not over. -/
theorem sends_iff_run (moves : List Move) (a : Attendance) :
    Sends (initial.run setup moves).attends? a ↔
      (∃ s ∈ initial.steps setup moves, s.Starts a) ∧
      ∀ s ∈ initial.steps setup moves, ¬ s.Ends a := by
  refine (run_induction (P := fun steps load => load.Crewed ∧
    ((∃ s ∈ steps, s.Starts a) → a.flight < load.engine.flights.length) ∧
    ((∃ s ∈ steps, s.Ends a) → ∃ s ∈ steps, s.Starts a) ∧
    (Sends load.attends? a ↔ (∃ s ∈ steps, s.Starts a) ∧ ∀ s ∈ steps, ¬ s.Ends a))
    ⟨crewed_initial, ?_⟩ ?_ moves).2.2.2
  · simp [Sends, initial, attends?]
  rintro steps load move ⟨hcrewed, hlt, hstarted, hsends⟩
  have hnext : (load.step setup move).Crewed := crewed_step hcrewed move
  have hlength := flights_length_le_step setup load move
  -- a flight is new when its send starts, so a send that is over does not start again
  have hfresh : (Step.mk load move (load.step setup move)).Starts a → ¬ ∃ s ∈ steps, s.Starts a :=
    fun h hold => absurd (hlt hold) (Nat.not_lt.mpr (le_flight_of_starts hcrewed h))
  simp only [List.mem_append, List.mem_singleton, or_and_right, exists_or, exists_eq_left,
    or_imp, forall_and, forall_eq]
  refine ⟨hnext, ⟨fun h => (hlt h).trans_le hlength, fun h => hnext.lt_of_sends h.1⟩,
    ⟨fun h => .inl (hstarted h), fun h => .inl (hsends.mp h.1).1⟩, ?_⟩
  constructor
  · intro hafter
    by_cases hbefore : Sends load.attends? a
    · obtain ⟨hstart, hend⟩ := hsends.mp hbefore
      exact .inl ⟨hstart, hend, fun h => h.2 hafter⟩
    · have hnew := hfresh ⟨hafter, hbefore⟩
      exact .inr ⟨⟨hafter, hbefore⟩, fun s hs h => hnew (hstarted ⟨s, hs, h⟩),
        fun h => h.2 hafter⟩
  · rintro (⟨hstart, hend, hlast⟩ | ⟨hstart, -⟩)
    · by_contra hafter
      exact hlast ⟨hsends.mpr ⟨hstart, hend⟩, hafter⟩
    · exact hstart.1

theorem held?_eq_some_iff (load : Workload) (id : Nat) (entry : String × Nat) :
    load.tasks[id]?.bind Standing.held? = some entry ↔
      ∃ a, load.attends? id = some a ∧ a.part = .sender ∧ (a.messageKey, a.flight) = entry := by
  cases htask : load.tasks[id]? <;> simp [attends?, htask, Standing.held?_eq_some_iff]

/-- The table of messages in flight has one entry for each task that sends. -/
theorem Crewed.perm (h : load.Crewed) :
    (load.tasks.filterMap Standing.held?).Perm load.engine.inFlight := by
  have hnodup : (load.tasks.filterMap Standing.held?).Nodup := by
    rw [List.Nodup, List.pairwise_filterMap, List.pairwise_iff_getElem]
    rintro i j hi hj hlt entry hentry _ hentry' rfl
    obtain ⟨a, ha, hsender, rfl⟩ :=
      (load.held?_eq_some_iff i _).mp (by simpa [hi] using hentry)
    obtain ⟨b, hb, hsender', hentry⟩ :=
      (load.held?_eq_some_iff j _).mp (by simpa [hj] using hentry')
    have hflight : a.flight = b.flight := (Prod.mk.inj hentry).2.symm
    exact hlt.ne (h.sender_unique i j a b ha hb hsender hsender' hflight)
  refine (List.perm_ext_iff_of_nodup hnodup h.keys_nodup.of_map).mpr fun entry => ?_
  rw [List.mem_filterMap]
  constructor
  · rintro ⟨standing, hstanding, hentry⟩
    obtain ⟨i, hi⟩ := List.mem_iff_getElem?.mp hstanding
    obtain ⟨a, ha, hsender, rfl⟩ :=
      (load.held?_eq_some_iff i entry).mp (by simpa [hi] using hentry)
    exact h.sender_listed i a ha hsender
  · intro hlisted
    obtain ⟨i, a, ha, hsender, hkey, hflight⟩ := h.exists_sender _ _ hlisted
    obtain ⟨standing, hi, hentry⟩ := Option.bind_eq_some_iff.mp
      ((load.held?_eq_some_iff i entry).mpr ⟨a, ha, hsender, by rw [hkey, hflight]⟩)
    exact ⟨standing, List.mem_of_getElem? hi, hentry⟩

/-- A key is in flight exactly when one task sends the message of it, and only one then. -/
theorem Crewed.listed_iff (h : load.Crewed) (key : String) :
    (∃ flight, (key, flight) ∈ load.engine.inFlight) ↔
      ∃! id, ∃ a, load.attends? id = some a ∧ a.part = .sender ∧ a.messageKey = key := by
  constructor
  · rintro ⟨flight, hlisted⟩
    obtain ⟨i, a, ha, hsender, hkey, -⟩ := h.exists_sender _ _ hlisted
    refine ⟨i, ⟨a, ha, hsender, hkey⟩, ?_⟩
    rintro j ⟨b, hb, hsender', hkey'⟩
    have heq := h.eq_of_sends ⟨hsender', j, hb⟩ ⟨hsender, i, ha⟩ (hkey'.trans hkey.symm)
    exact h.sender_unique j i b a hb ha hsender' hsender (congrArg Attendance.flight heq)
  · rintro ⟨i, ⟨a, ha, hsender, rfl⟩, -⟩
    exact ⟨a.flight, h.sender_listed i a ha hsender⟩

theorem Quiet.not_sends (h : load.Quiet) (a : Attendance) : ¬ Sends load.attends? a := by
  rintro ⟨hsender, id, ha⟩
  rw [attends?_eq_bind] at ha
  obtain ⟨task, htask, ha⟩ := Option.bind_eq_some_iff.mp ha
  have hsync := h id task htask
  cases task <;> cases ha <;> cases hsync

/-- The table of messages in flight and the cache agree with what has happened. -/
structure Consistent (steps : List Step) (load : Workload) : Prop where
  /-- A task sends from the step that puts its message in flight to the end of its retried call. -/
  sends_iff : ∀ a, Sends load.attends? a ↔
    (∃ s ∈ steps, s.Starts a) ∧ ∀ s ∈ steps, ¬ s.Ends a
  /-- A key is in flight exactly when one task sends the message of it, and only one then. -/
  listed_iff : ∀ key, (∃ flight, (key, flight) ∈ load.engine.inFlight) ↔
    ∃! id, ∃ a, load.attends? id = some a ∧ a.part = .sender ∧ a.messageKey = key
  /-- There are no other entries than one for each task that sends. -/
  perm : (load.tasks.filterMap Standing.held?).Perm load.engine.inFlight
  keys_nodup : (load.engine.inFlight.map Prod.fst).Nodup
  inFlight_of_quiet : load.Quiet → load.engine.inFlight = []
  /-- When no sync is under way, a key counts as processed exactly when some send of it has
  started since the cache was last cleared and was delivered. -/
  isProcessed_of_quiet : load.Quiet → ∀ id : MessageId,
    load.engine.isProcessed id.tenantId id.conversation id.key = true ↔
      ∃ a, a.messageKey = id.messageKey ∧ (∃ s ∈ sinceClear steps, s.Starts a) ∧
        ∃ s ∈ steps, s.Delivers a

/-- The table of messages in flight and the cache are consistent in every state of every run, with
tasks that go on, fail and are cancelled in any order, and with the cache cleared at any time. -/
theorem consistent_run (setup : EngineSetup) (moves : List Move) :
    Consistent (initial.steps setup moves) (initial.run setup moves) := by
  have hcrewed := @crewed_run setup moves
  refine ⟨sends_iff_run moves, hcrewed.listed_iff, hcrewed.perm, hcrewed.keys_nodup, ?_, ?_⟩
  · intro hquiet
    refine List.eq_nil_iff_forall_not_mem.mpr fun entry hlisted => ?_
    obtain ⟨id, a, ha, hsender, -⟩ := hcrewed.exists_sender _ _ hlisted
    exact hquiet.not_sends a ⟨hsender, id, ha⟩
  · intro hquiet id
    have hledger := (@ledger_run setup moves).mem_processed id.messageKey
    simpa [hquiet.not_sends, Engine.isProcessed, MessageId.messageKey] using hledger

end Workload

end Automation
