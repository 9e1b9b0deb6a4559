import Automation.Proofs.Sync.Ledger

/-!
# Who takes part in a flight

A send that is under way opens a window: the task that sends takes part in it, and so does every
task that comes to the message meanwhile. This file follows the tasks of a flight through a run.
Each of them comes once, as one thing, and leaves at most once; there is one sender among them,
and the way in which the flight lands stays what it is.

## Main definitions

* `Workload.Took` — a task takes part in a flight at some time of a run.
* `Workload.exits` — the steps with which a task leaves a flight.
* `Workload.Charted` — the invariant.

## Main statements

* `Workload.landing?_step` — a flight that has landed stays as it is.
* `Workload.charted_run` — the course of every task through a flight, in every run.
-/

namespace Automation

namespace Engine

variable {engine other : Engine} {options : RetryOptions} {seat : Nat → Option Attendance}
  {s : Option Attendance} {id : Nat} {a : Attendance} {flight : Nat} {landing landing' : Landing}

theorem Keeps.landing? (hkeep : engine.Keeps other) (h : engine.landing? flight = some landing) :
    other.landing? flight = some landing := by
  rw [landing?_eq_some_iff] at h ⊢
  obtain ⟨lost, hlost⟩ := hkeep.flights
  rw [hlost, List.getElem?_append_left (List.getElem?_eq_some_iff.mp h).1, h]

theorem Enters.landing? (hopens : engine.Enters options other s)
    (h : engine.landing? flight = some landing) : other.landing? flight = some landing := by
  cases hopens with
  | away kept => exact kept.landing? h
  | joins a part kept listed => exact kept.landing? h
  | sends a before backoff part kept unlisted fresh first flight' reserves =>
    have hkept := landing?_eq_some_iff.mp (kept.landing? h)
    rw [landing?_eq_some_iff, reserves, reserve]
    simpa only [List.getElem?_append_left (List.getElem?_eq_some_iff.mp hkept).1] using hkept

/-- A listed flight has not landed. -/
theorem Crewed.not_listed_of_landed (hcrewed : engine.Crewed seat)
    (h : engine.landing? flight = some landing) (key : String) :
    (key, flight) ∉ engine.inFlight := by
  intro hlisted
  have hpending := (hcrewed.pending_iff flight).mpr ⟨key, hlisted⟩
  rw [landing?_eq_some_iff, hpending] at h
  cases h

theorem Crewed.flight_lt (hcrewed : engine.Crewed seat) (ha : seat id = some a) :
    a.flight < engine.flights.length := by
  cases hpart : a.part with
  | sender => exact hcrewed.lt_of_sends ⟨hpart, id, ha⟩
  | waiter =>
    rcases hcrewed.waiter_listed_or_landed id a ha hpart with hlisted | ⟨landing, hlanding⟩
    · exact hcrewed.lt_of_listed hlisted
    · exact (List.getElem?_eq_some_iff.mp hlanding).1

/-- A flight that has landed is not the one that lands when a task leaves its own. -/
theorem Crewed.landing?_conclude (hcrewed : engine.Crewed seat) (ha : seat id = some a)
    (h : engine.landing? flight = some landing) :
    (engine.conclude a landing').landing? flight = some landing := by
  cases hpart : a.part with
  | waiter => rwa [conclude_of_waiter hpart]
  | sender =>
    have hne : a.flight ≠ flight := by
      rintro rfl
      exact hcrewed.not_listed_of_landed h _ (hcrewed.sender_listed id a ha hpart)
    rw [landing?_eq_some_iff] at h ⊢
    rw [flights_conclude_of_sender hpart, List.getElem?_set_ne hne, h]

theorem Crewed.landing?_conclude_self (hcrewed : engine.Crewed seat) (ha : seat id = some a)
    (hsender : a.part = .sender) :
    (engine.conclude a landing).landing? a.flight = some landing := by
  rw [landing?_eq_some_iff, flights_conclude_of_sender hsender]
  exact List.getElem?_set_self (hcrewed.lt_of_sends ⟨hsender, id, ha⟩)

end Engine

/-- A task leaves the flight that it attends with a step. -/
def Step.Leaves (s : Step) (id : Nat) (a : Attendance) : Prop :=
  s.before.attends? id = some a ∧ s.after.attends? id ≠ some a

instance (s : Step) (id : Nat) (a : Attendance) : Decidable (s.Leaves id a) :=
  inferInstanceAs (Decidable (_ ∧ _))

namespace Workload

/-- A task has taken part in a flight in the way given. -/
def Took (steps : List Step) (id : Nat) (a : Attendance) : Prop :=
  ∃ s ∈ steps, s.after.attends? id = some a

/-- The steps with which a task leaves a flight. -/
def exits (steps : List Step) (id : Nat) (a : Attendance) : List Step :=
  steps.filter fun s => s.Leaves id a

/-- A task does not attend a flight any more and cannot come back: it was cancelled, or the flight
has landed. -/
def Gone (load : Workload) (id flight : Nat) : Prop :=
  (∀ b, load.attends? id = some b → b.flight ≠ flight) ∧
    (load.tasks[id]? = some .cancelled ∨ ∃ landing, load.engine.landing? flight = some landing)

variable {setup : EngineSetup} {load : Workload} {steps : List Step}

theorem landing?_step (hcrewed : load.Crewed) {flight : Nat} {landing : Landing}
    (h : load.engine.landing? flight = some landing) (move : Move) :
    (load.step setup move).engine.landing? flight = some landing := by
  cases shift_step setup load move with
  | rests processed inFlight flights => rwa [Engine.landing?, flights]
  | clears cleared processed inFlight flights => rwa [Engine.landing?, flights]
  | enters id seat idle live opens => exact opens.landing? h
  | leaves id a landing' seat attending moved waited opens =>
    exact opens.landing? (hcrewed.landing?_conclude attending h)

theorem landing?_run (hcrewed : load.Crewed) {flight : Nat} {landing : Landing}
    (h : load.engine.landing? flight = some landing) (moves : List Move) :
    (load.run setup moves).engine.landing? flight = some landing := by
  induction moves generalizing load with
  | nil => exact h
  | cons move rest ih => exact ih (crewed_step hcrewed move) (landing?_step hcrewed h move)

theorem took_concat (s : Step) (id : Nat) (a : Attendance) :
    Took (steps ++ [s]) id a ↔ Took steps id a ∨ s.after.attends? id = some a := by
  simp [Took, or_and_right, exists_or]

theorem exits_concat (s : Step) (id : Nat) (a : Attendance) :
    exits (steps ++ [s]) id a = exits steps id a ++ if s.Leaves id a then [s] else [] := by
  by_cases h : s.Leaves id a <;> simp [exits, h]

/-- The tasks that have taken part in flights so far: what a flight is about, who sends, and how
far each of them has come. -/
structure Charted (steps : List Step) (load : Workload) : Prop where
  known : ∀ id a, load.attends? id = some a → Took steps id a
  known_before : ∀ s ∈ steps, ∀ id a, s.before.attends? id = some a → Took steps id a
  lt : ∀ id a, Took steps id a → a.flight < load.engine.flights.length
  same_key : ∀ i j a b, Took steps i a → Took steps j b → a.flight = b.flight →
    a.messageKey = b.messageKey
  one_sender : ∀ i j a b, Took steps i a → Took steps j b → a.part = .sender →
    b.part = .sender → a.flight = b.flight → i = j
  exists_sender : ∀ i a, Took steps i a →
    ∃ j b, Took steps j b ∧ b.part = .sender ∧ b.flight = a.flight
  one_part : ∀ i a b, Took steps i a → Took steps i b → a.flight = b.flight → a = b
  course : ∀ i a, Took steps i a → (load.attends? i = some a ∧ exits steps i a = []) ∨
    (load.Gone i a.flight ∧ ∃ s, exits steps i a = [s])

/-- One task gets another seat: it comes to a flight that is new, or to one that has a sender and
that it has not taken part in; and the flight that it leaves is one to which it cannot return. -/
structure Reseats (steps : List Step) (load next : Workload) (id : Nat)
    (seat : Option Attendance) : Prop where
  seats : next.attends? = Function.update load.attends? id seat
  lt : ∀ a, seat = some a → a.flight < next.engine.flights.length
  origin : ∀ a, seat = some a →
    (a.part = .sender ∧ load.engine.flights.length ≤ a.flight) ∨
    (a.part = .waiter ∧ ∃ j b, load.attends? j = some b ∧ b.part = .sender ∧
      b.messageKey = a.messageKey ∧ b.flight = a.flight)
  fresh : ∀ a, seat = some a → ∀ b, Took steps id b → b.flight ≠ a.flight
  left : ∀ b, load.attends? id = some b → next.Gone id b.flight

namespace Charted

variable {next : Workload} {move : Move} {id : Nat} {seat : Option Attendance}

theorem gone_step (hcrewed : load.Crewed) {id flight : Nat} (h : load.Gone id flight)
    (hseat : ∀ b, (load.step setup move).attends? id = some b → b.flight ≠ flight) :
    (load.step setup move).Gone id flight := by
  refine ⟨hseat, h.2.imp (cancelled_step · move) ?_⟩
  rintro ⟨landing, hlanding⟩
  exact ⟨landing, landing?_step hcrewed hlanding move⟩

/-- A turn from tables on in which everything has landed that its task has taken part in. -/
theorem reseats (h : Charted steps load) {engine : Engine} {old : Nat → Option Attendance}
    (hcrewed : engine.Crewed old) (hsub : ∀ j b, old j = some b → load.attends? j = some b)
    (hlength : engine.flights.length = load.engine.flights.length)
    (hlanded : seat ≠ none → ∀ b, Took steps id b →
      ∃ landing, engine.landing? b.flight = some landing)
    (hopens : engine.Enters setup.retry next.engine seat) (hnext : next.Crewed)
    (hseats : next.attends? = Function.update load.attends? id seat)
    (hleft : ∀ b, load.attends? id = some b → next.tasks[id]? = some .cancelled ∨
      ∃ landing, next.engine.landing? b.flight = some landing) :
    Reseats steps load next id seat := by
  have hseat : next.attends? id = seat := by rw [hseats, Function.update_self]
  have hfresh : ∀ a, seat = some a → ∀ b, Took steps id b → b.flight ≠ a.flight := by
    rintro a rfl b hb hflight
    obtain ⟨landing, hlanding⟩ := hlanded (Option.some_ne_none a) b hb
    cases hopens with
    | joins _ part kept listed =>
      rw [hflight] at hlanding
      exact hcrewed.not_listed_of_landed hlanding _ (hcrewed.lookup_eq_some_iff.mp listed)
    | sends _ before backoff part kept unlisted fresh first flight reserves =>
      have hlt := h.lt id b hb
      have hle := kept.length_le
      omega
  refine ⟨hseats, ?_, ?_, hfresh, ?_⟩
  · rintro a rfl
    exact hnext.flight_lt hseat
  · rintro a rfl
    cases hopens with
    | joins _ part kept listed =>
      obtain ⟨j, b, hb, hsender, hkey, hflight⟩ :=
        hcrewed.exists_sender _ _ (hcrewed.lookup_eq_some_iff.mp listed)
      exact .inr ⟨part, j, b, hsub j b hb, hsender, hkey, hflight⟩
    | sends _ before backoff part kept unlisted fresh first flight reserves =>
      rw [flight, ← hlength]
      exact .inl ⟨part, kept.length_le⟩
  · intro b hb
    refine ⟨fun c hc => ?_, hleft b hb⟩
    rw [hseat] at hc
    exact (hfresh c hc b (h.known id b hb)).symm

/-- The record of a run with a step in which no task gets another seat. -/
theorem rest (h : Charted steps load) (hcrewed : load.Crewed)
    (hseats : (load.step setup move).attends? = load.attends?) :
    Charted (steps ++ [⟨load, move, load.step setup move⟩]) (load.step setup move) := by
  have htook : ∀ i a, Took (steps ++ [⟨load, move, load.step setup move⟩]) i a ↔
      Took steps i a := by
    intro i a
    rw [took_concat, or_iff_left_of_imp]
    intro ha
    rw [hseats] at ha
    exact h.known i a ha
  have hexits : ∀ i a, exits (steps ++ [⟨load, move, load.step setup move⟩]) i a =
      exits steps i a := by
    intro i a
    rw [exits_concat, if_neg, List.append_nil]
    rintro ⟨hbefore, hafter⟩
    rw [hseats] at hafter
    exact hafter hbefore
  have hlength := flights_length_le_step setup load move
  constructor <;> simp only [htook, hexits]
  · rw [hseats]
    exact h.known
  · intro s hs i a ha
    rcases List.mem_append.mp hs with hs | hs
    · exact h.known_before s hs i a ha
    · rw [List.mem_singleton.mp hs] at ha
      exact h.known i a ha
  · exact fun i a ha => (h.lt i a ha).trans_le hlength
  · exact h.same_key
  · exact h.one_sender
  · exact h.exists_sender
  · exact h.one_part
  · intro i a ha
    rw [hseats]
    refine (h.course i a ha).imp_right fun hgone => ⟨?_, hgone.2⟩
    refine gone_step hcrewed hgone.1 ?_
    rw [hseats]
    exact hgone.1.1

section

variable (h : Charted steps load) (hs : Reseats steps load (load.step setup move) id seat)
include h hs

/-- Whoever has taken part after the step did so before, or has just got the seat. -/
theorem took_or_seated {i : Nat} {a : Attendance}
    (ha : Took (steps ++ [⟨load, move, load.step setup move⟩]) i a) :
    Took steps i a ∨ (i = id ∧ seat = some a) := by
  rcases (took_concat _ i a).mp ha with ha | ha
  · exact .inl ha
  · rw [hs.seats] at ha
    rcases update_eq_some_iff.mp ha with ha | ⟨-, ha⟩
    · exact .inr ha
    · exact .inl (h.known i a ha)

/-- A newcomer to a flight that was there before is a waiter, for the message that it carries. -/
theorem newcomer {a b : Attendance} {j : Nat} (ha : seat = some a) (hb : Took steps j b)
    (hflight : a.flight = b.flight) : a.part = .waiter ∧ a.messageKey = b.messageKey := by
  rcases hs.origin a ha with ⟨-, hle⟩ | ⟨hwaiter, k, c, hc, -, hkey, hflight'⟩
  · exact absurd (h.lt j b hb) (Nat.not_lt.mpr (hflight ▸ hle))
  · exact ⟨hwaiter, hkey.symm.trans (h.same_key k j c b (h.known k c hc) hb
      (hflight'.trans hflight))⟩

/-- The course of a task that has taken part before: it leaves, stays, or does not come back. -/
theorem course_of_took (hcrewed : load.Crewed) {i : Nat} {a : Attendance} (ha : Took steps i a) :
    ((load.step setup move).attends? i = some a ∧
      exits (steps ++ [⟨load, move, load.step setup move⟩]) i a = []) ∨
    ((load.step setup move).Gone i a.flight ∧
      ∃ s, exits (steps ++ [⟨load, move, load.step setup move⟩]) i a = [s]) := by
  have hnext : ∀ b, (load.step setup move).attends? i = some b ↔
      (i = id ∧ seat = some b) ∨ (i ≠ id ∧ load.attends? i = some b) := by
    intro b
    rw [hs.seats, update_eq_some_iff]
  rw [exits_concat]
  rcases h.course i a ha with ⟨hattends, hexits⟩ | ⟨hgone, s, hexits⟩
  · -- among those who attend a flight, the one that gets another seat leaves
    rcases eq_or_ne i id with rfl | hne
    · have hafter := hs.left a hattends
      have hleaves : (load.step setup move).attends? i ≠ some a := fun hb => hafter.1 a hb rfl
      rw [if_pos ⟨hattends, hleaves⟩, hexits]
      exact .inr ⟨hafter, _, rfl⟩
    · have hstays := (hnext a).mpr (.inr ⟨hne, hattends⟩)
      rw [if_neg fun hleaves => hleaves.2 hstays, hexits]
      exact .inl ⟨hstays, rfl⟩
  · -- who has left does not leave again, and gets no seat in the same flight
    have hnot : load.attends? i ≠ some a := fun hb => hgone.1 a hb rfl
    rw [if_neg fun hleaves => hnot hleaves.1, List.append_nil]
    refine .inr ⟨gone_step hcrewed hgone fun b hb => ?_, s, hexits⟩
    rcases (hnext b).mp hb with ⟨rfl, hseat⟩ | ⟨-, hb⟩
    · exact (hs.fresh b hseat a ha).symm
    · exact hgone.1 b hb

/-- The course of a task that has just got its seat. -/
theorem course_of_seated {a : Attendance} (ha : seat = some a) :
    (load.step setup move).attends? id = some a ∧
      exits (steps ++ [⟨load, move, load.step setup move⟩]) id a = [] := by
  have hstays : (load.step setup move).attends? id = some a := by
    rw [hs.seats, Function.update_self, ha]
  have hnone : exits steps id a = [] := by
    refine List.filter_eq_nil_iff.mpr fun s hmem hleaves => ?_
    have hbefore := h.known_before s hmem id a (of_decide_eq_true hleaves).1
    exact hs.fresh a ha a hbefore rfl
  rw [exits_concat, if_neg fun hleaves => hleaves.2 hstays, hnone]
  exact ⟨hstays, rfl⟩

/-- The record of a run with a step in which a task gets another seat. -/
theorem reseat (hcrewed : load.Crewed) :
    Charted (steps ++ [⟨load, move, load.step setup move⟩]) (load.step setup move) := by
  have hold : ∀ {i a}, Took steps i a →
      Took (steps ++ [⟨load, move, load.step setup move⟩]) i a :=
    fun ha => (took_concat _ _ _).mpr (.inl ha)
  constructor
  · exact fun i a ha => (took_concat _ i a).mpr (.inr ha)
  · intro s hmem i a ha
    rcases List.mem_append.mp hmem with hmem | hmem
    · exact hold (h.known_before s hmem i a ha)
    · rw [List.mem_singleton.mp hmem] at ha
      exact hold (h.known i a ha)
  · intro i a ha
    rcases h.took_or_seated hs ha with ha | ⟨-, ha⟩
    · exact (h.lt i a ha).trans_le (flights_length_le_step setup load move)
    · exact hs.lt a ha
  · intro i j a b ha hb hflight
    rcases h.took_or_seated hs ha with ha | ⟨-, ha⟩ <;>
      rcases h.took_or_seated hs hb with hb | ⟨-, hb⟩
    · exact h.same_key i j a b ha hb hflight
    · exact (h.newcomer hs hb ha hflight.symm).2.symm
    · exact (h.newcomer hs ha hb hflight).2
    · rw [Option.some.inj (ha.symm.trans hb)]
  · intro i j a b ha hb hsender hsender' hflight
    rcases h.took_or_seated hs ha with ha | ⟨hi, ha⟩ <;>
      rcases h.took_or_seated hs hb with hb | ⟨hj, hb⟩
    · exact h.one_sender i j a b ha hb hsender hsender' hflight
    · have hwaiter := (h.newcomer hs hb ha hflight.symm).1
      rw [hsender'] at hwaiter
      cases hwaiter
    · have hwaiter := (h.newcomer hs ha hb hflight).1
      rw [hsender] at hwaiter
      cases hwaiter
    · exact hi.trans hj.symm
  · intro i a ha
    rcases h.took_or_seated hs ha with ha' | ⟨-, ha'⟩
    · obtain ⟨j, b, hb, hsender, hflight⟩ := h.exists_sender i a ha'
      exact ⟨j, b, hold hb, hsender, hflight⟩
    · rcases hs.origin a ha' with ⟨hsender, -⟩ | ⟨-, k, c, hc, hsender, -, hflight⟩
      · exact ⟨i, a, ha, hsender, rfl⟩
      · exact ⟨k, c, hold (h.known k c hc), hsender, hflight⟩
  · intro i a b ha hb hflight
    rcases h.took_or_seated hs ha with ha | ⟨hi, ha⟩ <;>
      rcases h.took_or_seated hs hb with hb | ⟨hj, hb⟩
    · exact h.one_part i a b ha hb hflight
    · exact absurd hflight (hs.fresh b hb a (hj ▸ ha))
    · exact absurd hflight.symm (hs.fresh a ha b (hi ▸ hb))
    · exact Option.some.inj (ha.symm.trans hb)
  · intro i a ha
    rcases h.took_or_seated hs ha with ha | ⟨rfl, ha⟩
    · exact h.course_of_took hs hcrewed ha
    · exact .inl (h.course_of_seated hs ha)

end

end Charted

theorem charted_step (hcrewed : load.Crewed) (h : Charted steps load) (move : Move) :
    Charted (steps ++ [⟨load, move, load.step setup move⟩]) (load.step setup move) := by
  have hnext : (load.step setup move).Crewed := crewed_step hcrewed move
  cases shift_step setup load move with
  | rests processed inFlight flights seats => exact h.rest hcrewed seats
  | clears cleared processed inFlight flights seats => exact h.rest hcrewed seats
  | enters id seat idle live opens seats =>
    refine h.reseat (h.reseats hcrewed (fun _ _ hb => hb) rfl ?_ opens hnext seats ?_) hcrewed
    · intro _ b hb
      rcases h.course id b hb with ⟨hattends, -⟩ | ⟨⟨-, hcancelled | hlanded⟩, -⟩
      · rw [idle] at hattends
        cases hattends
      · exact absurd hcancelled live
      · exact hlanded
    · intro b hb
      rw [idle] at hb
      cases hb
  | leaves id a landing seat attending moved waited opens seats =>
    have hself : (load.step setup move).attends? id = seat := by
      rw [seats, Function.update_self]
    -- a waiter that is not cancelled has seen its flight land, a sender has made it land
    have hlanded : (load.step setup move).tasks[id]? = some .cancelled ∨
        (load.engine.conclude a landing).landing? a.flight = some landing := by
      cases hpart : a.part with
      | sender => exact .inr (hcrewed.landing?_conclude_self attending hpart)
      | waiter =>
        rw [Engine.conclude_of_waiter hpart]
        exact waited hpart
    refine h.reseat (h.reseats (hcrewed.vacate attending landing) ?_
      (Engine.flights_conclude_length ..) ?_ opens hnext seats ?_) hcrewed
    · exact fun j b hb => (update_none_eq_some_iff.mp hb).2
    · intro hseat b hb
      rcases h.course id b hb with ⟨hattends, -⟩ | ⟨⟨-, hcancelled | ⟨landing', hlanding⟩⟩, -⟩
      · obtain rfl := Option.some.inj (attending.symm.trans hattends)
        refine ⟨landing, hlanded.resolve_left fun hcancelled => hseat ?_⟩
        rw [← hself, attends?, hcancelled]
        rfl
      · simp [attends?, hcancelled, Standing.attends?] at attending
      · exact ⟨landing', hcrewed.landing?_conclude attending hlanding⟩
    · intro b hb
      obtain rfl := Option.some.inj (attending.symm.trans hb)
      exact hlanded.imp_right fun hlanding => ⟨landing, opens.landing? hlanding⟩

/-- Every run has a record of who takes part in which flight, and of the course of each task. -/
theorem charted_run (moves : List Move) :
    Charted (initial.steps setup moves) (initial.run setup moves) := by
  refine (run_induction (P := fun steps load => load.Crewed ∧ Charted steps load)
    ⟨crewed_initial, ?_⟩ ?_ moves).2
  · constructor <;> simp [Took, initial, attends?]
  · rintro steps load move ⟨hcrewed, hcharted⟩
    exact ⟨crewed_step hcrewed move, charted_step hcrewed hcharted move⟩

end Workload

end Automation
