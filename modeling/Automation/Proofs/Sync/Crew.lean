import Automation.Proofs.Sync.Workload
import Mathlib.Data.List.Nodup

/-!
# Every message in flight has one sender

The invariant behind all statements about concurrent syncs: the table of messages in flight lists
exactly the messages whose senders are under way, one sender for each, and whoever waits for a
flight waits for one that is listed or has landed.

## Main definitions

* `Engine.Crewed` — the invariant.

## Main statements

* `Engine.Crewed.vacate`, `Engine.Crewed.enter` — the two halves of a turn keep it.
* `Workload.crewed_step`, `Workload.crewed_run` — so every step and every run does.
-/

namespace Automation

/-- The table of messages in flight agrees with what the tasks attend. -/
structure Engine.Crewed (engine : Engine) (seat : Nat → Option Attendance) : Prop where
  keys_nodup : (engine.inFlight.map Prod.fst).Nodup
  /-- A flight is pending as long as it is listed. -/
  pending_iff : ∀ flight, engine.flights[flight]? = some none ↔
    ∃ key, (key, flight) ∈ engine.inFlight
  exists_sender : ∀ key flight, (key, flight) ∈ engine.inFlight → ∃ id a,
    seat id = some a ∧ a.part = .sender ∧ a.messageKey = key ∧ a.flight = flight
  sender_listed : ∀ id a, seat id = some a → a.part = .sender →
    (a.messageKey, a.flight) ∈ engine.inFlight
  sender_unique : ∀ id other a b, seat id = some a → seat other = some b → a.part = .sender →
    b.part = .sender → a.flight = b.flight → id = other
  waiter_listed_or_landed : ∀ id a, seat id = some a → a.part = .waiter →
    (a.messageKey, a.flight) ∈ engine.inFlight ∨
      ∃ landing, engine.flights[a.flight]? = some (some landing)

section

variable {seat : Nat → Option Attendance} {id i : Nat} {a : Attendance} {s : Option Attendance}

/-- Who sits where after one task got another seat. -/
theorem update_eq_some_iff : Function.update seat id s i = some a ↔
    (i = id ∧ s = some a) ∨ (i ≠ id ∧ seat i = some a) := by
  rcases eq_or_ne i id with rfl | hne
  · simp
  · simp [hne]

theorem update_none_eq_some_iff : Function.update seat id none i = some a ↔
    i ≠ id ∧ seat i = some a := by
  simp [update_eq_some_iff]

end

theorem Engine.key_unlisted {engine : Engine} {key : String}
    (h : engine.inFlight.lookup key = none) : key ∉ engine.inFlight.map Prod.fst := by
  rw [List.mem_map]
  rintro ⟨⟨_, flight⟩, hentry, rfl⟩
  exact absurd (List.lookup_eq_none_iff.mp h _ hentry) (by simp)

namespace Engine.Crewed

variable {engine other : Engine} {seat : Nat → Option Attendance} {options : RetryOptions}
  {id : Nat} {a : Attendance} {key key' : String} {flight flight' : Nat} {s : Option Attendance}

theorem flight_eq (h : engine.Crewed seat) (hmem : (key, flight) ∈ engine.inFlight)
    (hmem' : (key, flight') ∈ engine.inFlight) : flight = flight' :=
  congrArg Prod.snd (List.inj_on_of_nodup_map h.keys_nodup hmem hmem' rfl)

theorem key_eq (h : engine.Crewed seat) (hmem : (key, flight) ∈ engine.inFlight)
    (hmem' : (key', flight) ∈ engine.inFlight) : key = key' := by
  obtain ⟨id, a, ha, hpart, rfl, rfl⟩ := h.exists_sender _ _ hmem
  obtain ⟨id', b, hb, hpart', rfl, hflight⟩ := h.exists_sender _ _ hmem'
  obtain rfl := h.sender_unique id id' a b ha hb hpart hpart' hflight.symm
  rw [Option.some.inj (ha.symm.trans hb)]

theorem lookup_eq_some_iff (h : engine.Crewed seat) :
    engine.inFlight.lookup key = some flight ↔ (key, flight) ∈ engine.inFlight := by
  have hmem : ∀ {f}, engine.inFlight.lookup key = some f → (key, f) ∈ engine.inFlight := by
    intro f hf
    obtain ⟨l₁, l₂, hl, -⟩ := List.lookup_eq_some_iff.mp hf
    simp [hl]
  refine ⟨hmem, fun hlisted => ?_⟩
  cases hlookup : engine.inFlight.lookup key with
  | none => simpa using List.lookup_eq_none_iff.mp hlookup _ hlisted
  | some f => rw [h.flight_eq (hmem hlookup) hlisted]

theorem of_keeps (h : engine.Crewed seat) (hkeep : engine.Keeps other) : other.Crewed seat := by
  obtain ⟨-, hinFlight, lost, hflights⟩ := hkeep
  -- the flights that were added have landed, so the pending ones stay the same
  have hadded : ∀ f : Nat, other.flights[f]? = some none ↔ engine.flights[f]? = some none := by
    intro f
    rw [hflights, List.getElem?_append]
    split
    · rfl
    next hge => simp [List.getElem?_eq_none (Nat.le_of_not_lt hge)]
  refine ⟨hinFlight ▸ h.keys_nodup, fun f => by rw [hadded, hinFlight, h.pending_iff],
    hinFlight ▸ h.exists_sender, hinFlight ▸ h.sender_listed, h.sender_unique, ?_⟩
  intro id a ha hpart
  rw [hinFlight]
  refine (h.waiter_listed_or_landed id a ha hpart).imp_right ?_
  rintro ⟨landing, hlanding⟩
  have hlt : a.flight < engine.flights.length := (List.getElem?_eq_some_iff.mp hlanding).1
  exact ⟨landing, by rw [hflights, List.getElem?_append_left hlt, hlanding]⟩

theorem lt_of_listed (h : engine.Crewed seat) (hlisted : (key, flight) ∈ engine.inFlight) :
    flight < engine.flights.length :=
  (List.getElem?_eq_some_iff.mp ((h.pending_iff flight).mpr ⟨key, hlisted⟩)).1

/-- A task that does not send takes its leave. -/
theorem vacate_waiter (h : engine.Crewed seat) (ha : seat id = some a) (hpart : a.part = .waiter) :
    engine.Crewed (Function.update seat id none) := by
  have hseat : ∀ {i b}, Function.update seat id none i = some b → seat i = some b :=
    fun hb => (update_none_eq_some_iff.mp hb).2
  refine ⟨h.keys_nodup, h.pending_iff, ?_, fun i b hb => h.sender_listed i b (hseat hb),
    fun i j b c hb hc => h.sender_unique i j b c (hseat hb) (hseat hc),
    fun i b hb => h.waiter_listed_or_landed i b (hseat hb)⟩
  intro key flight hmem
  obtain ⟨i, b, hb, hsender, hrest⟩ := h.exists_sender key flight hmem
  refine ⟨i, b, update_none_eq_some_iff.mpr ⟨?_, hb⟩, hsender, hrest⟩
  rintro rfl
  rw [Option.some.inj (hb.symm.trans ha), hpart] at hsender
  cases hsender

/-- When a sender makes its flight land, the entry of that flight goes and no other. -/
theorem mem_inFlight_land (h : engine.Crewed seat) (ha : seat id = some a)
    (hpart : a.part = .sender) (landing : Landing) :
    (key, flight) ∈ (engine.land a.messageKey a.flight landing).inFlight ↔
      (key, flight) ∈ engine.inFlight ∧ flight ≠ a.flight := by
  have hlisted := h.sender_listed id a ha hpart
  simp only [land, List.mem_filter, decide_eq_true_eq]
  refine and_congr_right fun hmem => not_congr ⟨?_, ?_⟩
  · rintro rfl
    exact h.flight_eq hmem hlisted
  · rintro rfl
    exact h.key_eq hmem hlisted

/-- A sender takes its leave and makes its flight land. -/
theorem vacate_sender (h : engine.Crewed seat) (ha : seat id = some a) (hpart : a.part = .sender)
    (landing : Landing) :
    (engine.land a.messageKey a.flight landing).Crewed (Function.update seat id none) := by
  have hlt := h.lt_of_listed (h.sender_listed id a ha hpart)
  have hmem : ∀ {key flight}, (key, flight) ∈ (engine.land a.messageKey a.flight landing).inFlight ↔
      (key, flight) ∈ engine.inFlight ∧ flight ≠ a.flight := h.mem_inFlight_land ha hpart landing
  have hflights : (engine.land a.messageKey a.flight landing).flights =
      engine.flights.set a.flight (some landing) := rfl
  refine ⟨h.keys_nodup.sublist (List.filter_sublist.map _), ?_, ?_, ?_, ?_, ?_⟩
  · intro flight
    rw [hflights]
    rcases eq_or_ne flight a.flight with rfl | hne
    · simp [hmem, hlt]
    · simp [hmem, hne, List.getElem?_set_ne hne.symm, h.pending_iff]
  · intro key flight hlisted
    obtain ⟨hlisted, hne⟩ := hmem.mp hlisted
    obtain ⟨i, b, hb, hsender, hkey, hflight⟩ := h.exists_sender key flight hlisted
    refine ⟨i, b, update_none_eq_some_iff.mpr ⟨?_, hb⟩, hsender, hkey, hflight⟩
    rintro rfl
    exact hne (hflight ▸ congrArg Attendance.flight (Option.some.inj (hb.symm.trans ha)))
  · -- the flight that lands has no other sender, so the entries of the others stay
    intro i b hb hsender
    obtain ⟨hne, hb⟩ := update_none_eq_some_iff.mp hb
    refine hmem.mpr ⟨h.sender_listed i b hb hsender, fun hflight => hne ?_⟩
    exact h.sender_unique i id b a hb ha hsender hpart hflight
  · exact fun i j b c hb hc => h.sender_unique i j b c (update_none_eq_some_iff.mp hb).2
      (update_none_eq_some_iff.mp hc).2
  · -- those who wait for the flight that lands have nothing listed any more
    intro i b hb hwaiter
    obtain ⟨-, hb⟩ := update_none_eq_some_iff.mp hb
    rcases eq_or_ne b.flight a.flight with hflight | hne
    · exact .inr ⟨landing, by rw [hflights, hflight, List.getElem?_set_self hlt]⟩
    · rw [hflights, List.getElem?_set_ne hne.symm]
      exact (h.waiter_listed_or_landed i b hb hwaiter).imp_left fun hlisted =>
        hmem.mpr ⟨hlisted, hne⟩

/-- A task leaves the flight that it attends; a sender makes it land. -/
theorem vacate (h : engine.Crewed seat) (ha : seat id = some a) (landing : Landing) :
    (engine.conclude a landing).Crewed (Function.update seat id none) := by
  cases hpart : a.part with
  | waiter =>
    rw [conclude_of_waiter hpart]
    exact h.vacate_waiter ha hpart
  | sender =>
    rw [conclude_of_sender hpart]
    exact h.vacate_sender ha hpart landing

/-- A task comes to a message in flight. -/
theorem joins (h : engine.Crewed seat) (hidle : seat id = none) (hpart : a.part = .waiter)
    (hlisted : (a.messageKey, a.flight) ∈ engine.inFlight) :
    engine.Crewed (Function.update seat id (some a)) := by
  have hseat : ∀ {i b}, Function.update seat id (some a) i = some b → b.part = .sender →
      seat i = some b := by
    intro i b hb hsender
    rcases update_eq_some_iff.mp hb with ⟨-, heq⟩ | ⟨-, hb⟩
    · rw [← Option.some.inj heq, hpart] at hsender
      cases hsender
    · exact hb
  refine ⟨h.keys_nodup, h.pending_iff, ?_,
    fun i b hb hsender => h.sender_listed i b (hseat hb hsender) hsender,
    fun i j b c hb hc hsender hsender' => h.sender_unique i j b c (hseat hb hsender)
      (hseat hc hsender') hsender hsender', ?_⟩
  · intro key flight hmem
    obtain ⟨i, b, hb, hrest⟩ := h.exists_sender key flight hmem
    refine ⟨i, b, update_eq_some_iff.mpr (.inr ⟨?_, hb⟩), hrest⟩
    rintro rfl
    simp [hidle] at hb
  · intro i b hb hwaiter
    rcases update_eq_some_iff.mp hb with ⟨-, heq⟩ | ⟨-, hb⟩
    · exact .inl (Option.some.inj heq ▸ hlisted)
    · exact h.waiter_listed_or_landed i b hb hwaiter

/-- The flights that are pending once a message has been put in flight. -/
theorem pending_reserve {engine : Engine} : (engine.reserve key).1.flights[flight]? = some none ↔
    flight = engine.flights.length ∨ engine.flights[flight]? = some none := by
  simp only [reserve]
  rcases lt_trichotomy flight engine.flights.length with hlt | rfl | hgt
  · simp [List.getElem?_append_left hlt, hlt.ne]
  · simp
  · have hout : engine.flights.length + 1 ≤ flight := hgt
    simp [List.getElem?_eq_none hgt.le, List.getElem?_eq_none (l := engine.flights ++ [none])
      (by simpa using hout), hgt.ne']

/-- A task puts a message in flight. -/
theorem sends (h : engine.Crewed seat) (hidle : seat id = none) (hpart : a.part = .sender)
    (hunlisted : engine.inFlight.lookup a.messageKey = none)
    (hflight : a.flight = engine.flights.length) :
    (engine.reserve a.messageKey).1.Crewed (Function.update seat id (some a)) := by
  -- a sender that was there before has a flight that was there before
  have hold : ∀ {i b}, seat i = some b → b.part = .sender → b.flight ≠ a.flight := by
    intro i b hb hsender
    rw [hflight]
    exact (h.lt_of_listed (h.sender_listed i b hb hsender)).ne
  refine ⟨List.nodup_cons.mpr ⟨key_unlisted hunlisted, h.keys_nodup⟩, ?_, ?_, ?_, ?_, ?_⟩
  · intro flight
    rw [pending_reserve, h.pending_iff]
    simp only [reserve, List.mem_cons, Prod.mk.injEq]
    constructor
    · rintro (rfl | ⟨key, hmem⟩)
      · exact ⟨_, .inl ⟨rfl, rfl⟩⟩
      · exact ⟨key, .inr hmem⟩
    · rintro ⟨key, ⟨-, rfl⟩ | hmem⟩
      · exact .inl rfl
      · exact .inr ⟨key, hmem⟩
  · intro key flight hmem
    rcases List.mem_cons.mp hmem with heq | hmem
    · obtain ⟨rfl, rfl⟩ := Prod.mk.inj heq
      exact ⟨id, a, Function.update_self .., hpart, rfl, hflight⟩
    · obtain ⟨i, b, hb, hrest⟩ := h.exists_sender key flight hmem
      refine ⟨i, b, update_eq_some_iff.mpr (.inr ⟨?_, hb⟩), hrest⟩
      rintro rfl
      simp [hidle] at hb
  · intro i b hb hsender
    rcases update_eq_some_iff.mp hb with ⟨-, heq⟩ | ⟨-, hb⟩
    · obtain rfl := Option.some.inj heq
      simp [reserve, hflight]
    · exact List.mem_cons_of_mem _ (h.sender_listed i b hb hsender)
  · intro i j b c hb hc hsender hsender' heq
    rcases update_eq_some_iff.mp hb with ⟨hi, hnew⟩ | ⟨-, hb⟩ <;>
      rcases update_eq_some_iff.mp hc with ⟨hj, hnew'⟩ | ⟨-, hc⟩
    · exact hi.trans hj.symm
    · obtain rfl := Option.some.inj hnew
      exact absurd heq.symm (hold hc hsender')
    · obtain rfl := Option.some.inj hnew'
      exact absurd heq (hold hb hsender)
    · exact h.sender_unique i j b c hb hc hsender hsender' heq
  · intro i b hb hwaiter
    rcases update_eq_some_iff.mp hb with ⟨-, heq⟩ | ⟨-, hb⟩
    · rw [← Option.some.inj heq, hpart] at hwaiter
      cases hwaiter
    · refine (h.waiter_listed_or_landed i b hb hwaiter).imp (List.mem_cons_of_mem _) ?_
      rintro ⟨landing, hlanding⟩
      have hlt : b.flight < engine.flights.length := (List.getElem?_eq_some_iff.mp hlanding).1
      exact ⟨landing, by simp [reserve, List.getElem?_append_left hlt, hlanding]⟩

/-- A task that attends no flight does what a turn may do. -/
theorem enter (h : engine.Crewed seat) (hidle : seat id = none)
    (hopens : engine.Enters options other s) : other.Crewed (Function.update seat id s) := by
  cases hopens with
  | away kept =>
    rw [← hidle, Function.update_eq_self]
    exact h.of_keeps kept
  | joins a part kept listed =>
    refine (h.of_keeps kept).joins hidle part ?_
    rw [kept.inFlight]
    exact h.lookup_eq_some_iff.mp listed
  | sends a before backoff part kept unlisted fresh first flight reserves =>
    rw [reserves]
    exact (h.of_keeps kept).sends hidle part (by rw [kept.inFlight, unlisted]) flight

/-- The invariant is about the flights only: what counts as processed does not matter. -/
theorem congr (h : engine.Crewed seat) (hinFlight : other.inFlight = engine.inFlight)
    (hflights : other.flights = engine.flights) : other.Crewed seat := by
  refine ⟨hinFlight ▸ h.keys_nodup, ?_, hinFlight ▸ h.exists_sender, hinFlight ▸ h.sender_listed,
    h.sender_unique, ?_⟩
  · rw [hinFlight, hflights]
    exact h.pending_iff
  · rw [hinFlight, hflights]
    exact h.waiter_listed_or_landed

end Engine.Crewed

namespace Workload

variable {setup : EngineSetup} {load : Workload}

/-- The table of messages in flight agrees with what the tasks of a workload attend. -/
def Crewed (load : Workload) : Prop := load.engine.Crewed load.attends?

theorem crewed_initial : initial.Crewed := by
  have hseat : initial.attends? = fun _ => none := by funext id; simp [initial, attends?]
  rw [Crewed, hseat]
  constructor <;> simp [initial, Engine.initial]

theorem crewed_step (h : load.Crewed) (move : Move) : (load.step setup move).Crewed := by
  cases shift_step setup load move with
  | rests processed inFlight flights seats =>
    rw [Crewed, seats]
    exact h.congr inFlight flights
  | clears cleared processed inFlight flights seats =>
    rw [Crewed, seats]
    exact h.congr inFlight flights
  | enters id seat idle live opens seats =>
    rw [Crewed, seats]
    exact h.enter idle opens
  | leaves id a landing seat attending moved waited opens seats =>
    have hturn := (h.vacate attending landing).enter (Function.update_self ..) opens
    rwa [Function.update_idem, ← seats] at hturn

theorem crewed_run (moves : List Move) : (initial.run setup moves).Crewed :=
  run_induction (P := fun _ load => load.Crewed) crewed_initial
    (fun _ _ move h => crewed_step h move) moves

end Workload

end Automation
