import Automation.Proofs.Number.Exact
import Automation.Proofs.Retry.Attempts
import Mathlib.Algebra.Order.BigOperators.Group.List
import Mathlib.Data.Sign.Basic
import Mathlib.Tactic.GCongr
import Mathlib.Tactic.Linarith

/-!
# The schedule of pauses

The delays of a retried operation are computed step by step: each one is the one before it, times the
multiplier and cut at the longest delay. The loop is stated here for any arithmetic of delays. In
binary64 arithmetic it is the loop that runs; in exact arithmetic its pauses have a closed form.

## Main definitions

* `DelayArithmetic` — the operations on delays, with `DelayArithmetic.binary64` and
  `DelayArithmetic.exact`.
* `Retry.courseIn` — the course of a retried operation in an arithmetic.
* `Retry.scheduledDelay` — the delays in milliseconds, in closed form.
* `Retry.Course.Scheduled` — the pauses of a course follow the schedule.
* `Retry.Unrounded` — the delays that the program computes come out exactly.

## Main statements

* `Retry.courseIn_binary64` — in binary64 arithmetic it is the course of the program.
* `Retry.Follows.scheduled` — in exact arithmetic the pauses follow the schedule.
* `Retry.Unrounded.pause` — in the program they do as far as nothing is rounded.
* `Retry.scheduled_course` — pauses follow the schedule when delays are computed exactly.
-/

namespace Automation

/-! ## Arithmetics of delays -/

namespace Place

/-- On which side of zero a place lies. -/
def sign : Place → SignType
  | .least => -1
  | .rational q => SignType.sign q
  | .greatest => 1

/-- The product on the extended line. With an infinity it is the infinity of its sign, and an
infinity times zero lies nowhere. -/
def times : Place → Place → Option Place
  | .rational p, .rational q => some (.rational (p * q))
  | p, q =>
    match p.sign * q.sign with
    | .neg => some .least
    | .zero => none
    | .pos => some .greatest

theorem times_greatest_of_pos {q : ℚ} (h : 0 < q) :
    (rational q).times .greatest = some .greatest := by
  simp only [times, sign, sign_pos h]

theorem times_greatest_of_zero : (rational 0).times .greatest = none := by
  simp only [times, sign, sign_zero]

end Place

/-- The operations on delays. A delay is made of a number of milliseconds, reported by its whole
part, paused for in seconds, multiplied by a factor and cut at the longest delay. -/
structure DelayArithmetic (δ σ : Type) where
  ofNumber : Number → Except ArithmeticFault δ
  wholePart : δ → Except ArithmeticFault Int
  thousandth : δ → Except ArithmeticFault σ
  times : δ → Number → Except ArithmeticFault δ
  least : δ → Number → δ

namespace DelayArithmetic

/-- The arithmetic that runs: the first delay and all products are rounded. -/
def binary64 : DelayArithmetic Number Binary64 where
  ofNumber n := Number.float <$> n.toBinary64
  wholePart := Number.wholePart
  thousandth := Number.thousandth
  times := Number.mul
  least := Number.least

/-- The exact value of a delay that has one. -/
def rational? : Option Place → Except ArithmeticFault ℚ
  | some (.rational q) => .ok q
  | some .least | some .greatest => .error .wholePartOfInfinity
  | none => .error .wholePartOfNaN

/-- Arithmetic on the extended line, without any rounding. -/
def exact : DelayArithmetic (Option Place) ℚ where
  ofNumber n := .ok n.place?
  wholePart delay := (fun q => q.num.tdiv q.den) <$> rational? delay
  thousandth delay := (fun q => q / 1000) <$> rational? delay
  times delay factor := .ok (delay.bind fun p => factor.place?.bind p.times)
  least delay longest :=
    match delay, longest.place? with
    | some p, some q => some (if q.le p then q else p)
    | _, _ => delay

theorem exact_times_rational {factor : Number} {m : ℚ} (h : factor.value? = some m) (q : ℚ) :
    exact.times (some (.rational q)) factor = .ok (some (.rational (q * m))) := by
  have hplace : factor.place? = some (.rational m) := Number.place?_eq_rational_iff.mpr h
  simp only [exact, hplace, Option.bind_some, Place.times]

theorem exact_times_greatest {factor : Number} (h : factor.place? = some .greatest) (p : Place) :
    exact.times (some p) factor = .ok (p.times .greatest) := by
  simp only [exact, h, Option.bind_some]

theorem exact_least_rational {longest : Number} {cap : ℚ} (h : longest.value? = some cap) (q : ℚ) :
    exact.least (some (.rational q)) longest = some (.rational (min q cap)) := by
  have hplace : longest.place? = some (.rational cap) := Number.place?_eq_rational_iff.mpr h
  simp only [exact, hplace, Place.le, decide_eq_true_eq]
  by_cases hle : cap ≤ q
  · rw [if_pos hle, min_eq_right hle]
  · rw [if_neg hle, min_eq_left (le_of_not_ge hle)]

theorem exact_least_greatest {longest : Number} {cap : ℚ} (h : longest.value? = some cap) :
    exact.least (some .greatest) longest = some (.rational cap) := by
  have hplace : longest.place? = some (.rational cap) := Number.place?_eq_rational_iff.mpr h
  simp only [exact, hplace, Place.le, if_true]

/-- The delay behind another one. -/
def following {δ σ : Type} (A : DelayArithmetic δ σ) (options : RetryOptions) (delay : δ) :
    Except ArithmeticFault δ := do
  let grown ← A.times delay (← Backoff.factor options.multiplier)
  return A.least grown options.maxDelayMs.value

theorem following_of_times {δ σ : Type} {A : DelayArithmetic δ σ} {options : RetryOptions}
    {factor : Number} (hfactor : Backoff.factor options.multiplier = .ok factor) {delay grown : δ}
    (hgrown : A.times delay factor = .ok grown) :
    A.following options delay = .ok (A.least grown options.maxDelayMs.value) := by
  rw [following, hfactor]
  show (A.times delay factor >>= _) = _
  rw [hgrown]
  rfl

/-- The delay behind attempt `k + 1`. -/
def delays {δ σ : Type} (A : DelayArithmetic δ σ) (options : RetryOptions) :
    ℕ → Except ArithmeticFault δ
  | 0 => A.ofNumber options.delayMs.value
  | k + 1 => (A.delays options k).bind (A.following options)

end DelayArithmetic

namespace Retry

section Courses

variable {δ σ ε κ α : Type} (A : DelayArithmetic δ σ) (options : RetryOptions)
  (message : ε → String) (script : Script ε κ α)

/-- The course from the attempt of a number on, for at most `fuel` attempts, in an arithmetic. -/
def courseInFrom : Nat → Nat → δ → Course σ ε κ α
  | 0, _, _ => ⟨[], [], .unfinished⟩
  | fuel + 1, number, delay =>
    match script.attempt number with
    | .returned value => ⟨[.attempt number], [], .returned value⟩
    | .interrupted cause => ⟨[.attempt number], [], .interrupted cause⟩
    | .failed error =>
      if options.isLast number then
        ⟨[.attempt number], [Backoff.exhaustedEntry options (message error)], .failed error⟩
      else
        match A.wholePart delay with
        | .error fault => ⟨[.attempt number], [], .faulted fault⟩
        | .ok whole =>
          let entries := [Backoff.retryingEntry number whole (message error)]
          match A.thousandth delay with
          | .error fault => ⟨[.attempt number], entries, .faulted fault⟩
          | .ok seconds =>
            let waits := [.attempt number, .pause seconds]
            match script.interruption? number with
            | some cause => ⟨waits, entries, .interrupted cause⟩
            | none =>
              match A.following options delay with
              | .error fault => ⟨waits, entries, .faulted fault⟩
              | .ok delay => (courseInFrom fuel (number + 1) delay).after waits entries

/-- The course of an operation in an arithmetic. -/
def courseIn : Course σ ε κ α :=
  match A.ofNumber options.delayMs.value with
  | .error fault => ⟨[], [], .faulted fault⟩
  | .ok delay => courseInFrom A options message script (attemptLimit options) 1 delay

theorem next_eq_following (number : Nat) (delay : Number) :
    (Backoff.mk number delay).next options =
      Backoff.mk (number + 1) <$> DelayArithmetic.binary64.following options delay := by
  rw [Backoff.next, DelayArithmetic.following]
  cases Backoff.factor options.multiplier with
  | error fault => rfl
  | ok factor =>
    show (delay.mul factor >>= _) = _ <$> (delay.mul factor >>= _)
    cases delay.mul factor with
    | error fault => rfl
    | ok grown => rfl

/-- From any attempt on, binary64 arithmetic gives the course of the program. -/
theorem courseInFrom_binary64 (fuel number : Nat) (delay : Number) :
    courseInFrom .binary64 options message script fuel number delay =
      courseFrom options message script fuel ⟨number, delay⟩ := by
  have hwhole : DelayArithmetic.binary64.wholePart delay = delay.wholePart := rfl
  have hthousandth : DelayArithmetic.binary64.thousandth delay = delay.thousandth := rfl
  induction fuel generalizing number delay with
  | zero => rfl
  | succ fuel ih =>
    simp only [courseInFrom, courseFrom, next_eq_following, Backoff.decide, RetryOptions.isLast,
      hwhole, hthousandth]
    cases script.attempt number with
    | returned value => rfl
    | interrupted cause => rfl
    | failed error =>
      cases options.maxAttempts.value.le (.int number) with
      | true => rfl
      | false =>
        cases delay.wholePart with
        | error fault => rfl
        | ok whole =>
          cases delay.thousandth with
          | error fault => rfl
          | ok seconds =>
            cases script.interruption? number with
            | some cause => rfl
            | none =>
              cases DelayArithmetic.binary64.following options delay with
              | error fault => rfl
              | ok following =>
                exact congrArg (Course.after [.attempt number, .pause seconds]
                  [Backoff.retryingEntry number whole (message error)])
                  (ih (number + 1) following rfl rfl)

/-- In binary64 arithmetic it is the course of the program. -/
theorem courseIn_binary64 :
    courseIn .binary64 options message script = course options message script := by
  have hnumber : DelayArithmetic.binary64.ofNumber options.delayMs.value =
      Number.float <$> options.delayMs.value.toBinary64 := rfl
  rw [courseIn, course, Backoff.first, hnumber]
  cases options.delayMs.value.toBinary64 with
  | error fault => rfl
  | ok delay =>
    exact courseInFrom_binary64 options message script (attemptLimit options) 1 (.float delay)

theorem pauses_attempt (number : Nat) (entries : List LogEntry) (ending : Ending ε κ α) :
    (Course.mk [.attempt number] entries ending : Course σ ε κ α).pauses = [] := rfl

theorem pauses_pause (number : Nat) (seconds : σ) (entries : List LogEntry) (ending : Ending ε κ α) :
    (Course.mk [.attempt number, .pause seconds] entries ending).pauses = [seconds] := rfl

theorem pauses_after (number : Nat) (seconds : σ) (entries : List LogEntry)
    (course : Course σ ε κ α) :
    (course.after [.attempt number, .pause seconds] entries).pauses = seconds :: course.pauses := rfl

variable {A options} in
/-- The pauses of a course are the delays in seconds. -/
theorem exists_delay_of_pause {fuel k : Nat} {delay : δ} (hdelay : A.delays options k = .ok delay)
    {i : Nat} {seconds : σ}
    (h : (courseInFrom A options message script fuel (k + 1) delay).pauses[i]? = some seconds) :
    ∃ d, A.delays options (k + i) = .ok d ∧ (∃ whole, A.wholePart d = .ok whole) ∧
      A.thousandth d = .ok seconds := by
  induction fuel generalizing k delay i with
  | zero => cases h
  | succ fuel ih =>
    rw [courseInFrom] at h
    cases hattempt : script.attempt (k + 1) with
    | returned value => simp [hattempt, pauses_attempt] at h
    | interrupted cause => simp [hattempt, pauses_attempt] at h
    | failed error =>
      cases hlast : options.isLast (k + 1) with
      | true => simp [hattempt, hlast, pauses_attempt] at h
      | false =>
        cases hwhole : A.wholePart delay with
        | error fault => simp [hattempt, hlast, hwhole, pauses_attempt] at h
        | ok whole =>
          cases hseconds : A.thousandth delay with
          | error fault => simp [hattempt, hlast, hwhole, hseconds, pauses_attempt] at h
          | ok first =>
            have hfirst : first = seconds → ∃ d, A.delays options (k + 0) = .ok d ∧
                (∃ whole, A.wholePart d = .ok whole) ∧ A.thousandth d = .ok seconds := by
              rintro rfl
              exact ⟨delay, hdelay, ⟨whole, hwhole⟩, hseconds⟩
            simp only [hattempt, hlast, hwhole, hseconds, Bool.false_eq_true, if_false] at h
            cases hpause : script.interruption? (k + 1) with
            | some cause =>
              simp only [hpause, pauses_pause] at h
              obtain ⟨hi, hsame⟩ := List.getElem?_eq_some_iff.mp h
              obtain rfl : i = 0 := by simpa using hi
              exact hfirst hsame
            | none =>
              cases hfollowing : A.following options delay with
              | error fault =>
                simp only [hpause, hfollowing, pauses_pause] at h
                obtain ⟨hi, hsame⟩ := List.getElem?_eq_some_iff.mp h
                obtain rfl : i = 0 := by simpa using hi
                exact hfirst hsame
              | ok next =>
                simp only [hpause, hfollowing, pauses_after] at h
                cases i with
                | zero => exact hfirst (Option.some.inj h)
                | succ i =>
                  have hnext : A.delays options (k + 1) = .ok next := by
                    rw [DelayArithmetic.delays, hdelay]
                    exact hfollowing
                  rw [← Nat.add_assoc, Nat.add_right_comm]
                  exact ih hnext h

end Courses

/-! ## The schedule -/

/-- The delay in milliseconds behind attempt `k + 1`. The first one is the initial delay; each later
one is scaled by the multiplier and cut at the longest delay, which is all that an infinite multiplier
leaves. -/
def scheduledDelay (delay cap : ℚ) (multiplier? : Option ℚ) : ℕ → ℚ
  | 0 => delay
  | k + 1 =>
    match multiplier? with
    | some multiplier => min (delay * multiplier ^ (k + 1)) cap
    | none => cap

section Schedule

variable {delay cap multiplier : ℚ} {multiplier? : Option ℚ}

theorem scheduledDelay_succ_le (k : ℕ) : scheduledDelay delay cap multiplier? (k + 1) ≤ cap := by
  cases multiplier? with
  | none => exact le_rfl
  | some multiplier => exact min_le_right _ _

theorem scheduledDelay_nonneg (hdelay : 0 ≤ delay) (hcap : 0 ≤ cap)
    (hmultiplier : ∀ m, multiplier? = some m → 1 ≤ m) (k : ℕ) :
    0 ≤ scheduledDelay delay cap multiplier? k := by
  cases k with
  | zero => exact hdelay
  | succ k =>
    cases multiplier? with
    | none => exact hcap
    | some m =>
      have hm : 0 ≤ m := zero_le_one.trans (hmultiplier m rfl)
      exact le_min (mul_nonneg hdelay (pow_nonneg hm (k + 1))) hcap

/-- Multiplying and cutting once more leads to the next delay of the closed form: a delay that was
cut stays cut, for the multiplier is at least one. -/
theorem scheduledDelay_succ (hcap : 0 ≤ cap) (hmultiplier : 1 ≤ multiplier) (k : ℕ) :
    scheduledDelay delay cap (some multiplier) (k + 1) =
      min (scheduledDelay delay cap (some multiplier) k * multiplier) cap := by
  cases k with
  | zero => simp only [scheduledDelay, zero_add, pow_one]
  | succ k =>
    have hgrown : cap ≤ cap * multiplier := le_mul_of_one_le_right hcap hmultiplier
    have hnonneg : 0 ≤ multiplier := zero_le_one.trans hmultiplier
    simp only [scheduledDelay]
    rw [min_mul_of_nonneg _ _ hnonneg, mul_assoc, ← pow_succ, min_assoc, min_eq_right hgrown]

/-- The delays do not decrease when the first one is not above the longest one. -/
theorem scheduledDelay_mono (hdelay : 0 ≤ delay) (hle : delay ≤ cap)
    (hmultiplier : ∀ m, multiplier? = some m → 1 ≤ m) :
    Monotone (scheduledDelay delay cap multiplier?) := by
  have hcap : 0 ≤ cap := hdelay.trans hle
  refine monotone_nat_of_le_succ ?_
  intro k
  cases multiplier? with
  | none =>
    cases k with
    | zero => exact hle
    | succ k => exact le_rfl
  | some m =>
    have hm : 1 ≤ m := hmultiplier m rfl
    have hbelow : scheduledDelay delay cap (some m) k ≤ cap := by
      cases k with
      | zero => exact hle
      | succ k => exact scheduledDelay_succ_le k
    rw [scheduledDelay_succ hcap hm]
    exact le_min (le_mul_of_one_le_right (scheduledDelay_nonneg hdelay hcap hmultiplier k) hm) hbelow

end Schedule

/-- The pauses of a course, in exact seconds, follow the schedule of an initial delay, a longest
delay and a multiplier, in milliseconds. -/
structure Course.Scheduled {ε κ α : Type} (delay cap : ℚ) (multiplier? : Option ℚ)
    (course : Course ℚ ε κ α) : Prop where
  /-- How long each pause lasts. -/
  lengths : ∀ k (h : k < course.pauses.length),
    course.pauses[k] = scheduledDelay delay cap multiplier? k / 1000
  /-- From the second on, no pause is longer than the longest delay. -/
  capped : ∀ k (h : k < course.pauses.length), 0 < k → course.pauses[k] ≤ cap / 1000
  /-- The pauses do not become shorter. -/
  growing : delay ≤ cap → course.pauses.Pairwise (· ≤ ·)
  /-- Each pause lies between two attempts, unless it is interrupted. -/
  between : course.pauses.length + 1 = course.attempts ∨
    course.pauses.length = course.attempts ∧ ∃ cause, course.ending = .interrupted cause
  /-- How long the pauses between the attempts last altogether. -/
  total : 2 ≤ course.attempts →
    (course.pauses.take (course.attempts - 1)).sum ≤
      (delay + (course.attempts - 2) * cap) / 1000
  /-- With a finite multiplier all delays have values, and the course comes to an end. -/
  computed : multiplier? ≠ none →
    (∀ fault, course.ending ≠ .faulted fault) ∧ course.ending ≠ .unfinished

end Retry

/-- A number that is not below one has an exact value, or it is the positive infinity. -/
theorem Number.place?_of_one_le {x : Number} (h : (Number.int 1).le x = true) :
    (∃ m, x.value? = some m ∧ 1 ≤ m) ∨ x.value? = none ∧ x.place? = some .greatest := by
  obtain ⟨p, q, hp, hq, hle⟩ := Number.le_eq_true_iff.mp h
  obtain rfl : Place.rational 1 = p := Option.some.inj hp
  cases q with
  | least => cases hle
  | rational m => exact .inl ⟨m, Number.place?_eq_rational_iff.mp hq, of_decide_eq_true hle⟩
  | greatest =>
    refine .inr ⟨?_, hq⟩
    cases hvalue : x.value? with
    | none => rfl
    | some m =>
      rw [Number.place?_eq_rational_iff.mpr hvalue] at hq
      cases hq

/-- Options of a whole number of attempts, of delays that have exact values and are not negative, and
of a multiplier that is not below one. -/
structure RetryOptions.Growing (options : RetryOptions) (limit : ℕ) (delay cap : ℚ)
    (factor : Number) : Prop where
  attempts : options.maxAttempts.value = .int limit
  attempts_pos : 0 < limit
  first : options.delayMs.value.value? = some delay
  first_nonneg : 0 ≤ delay
  longest : options.maxDelayMs.value.value? = some cap
  longest_nonneg : 0 ≤ cap
  multiplier : Backoff.factor options.multiplier = .ok factor
  one_le : (Number.int 1).le factor = true

theorem RetryOptions.Growing.one_le_of_value? {options : RetryOptions} {limit : ℕ} {delay cap : ℚ}
    {factor : Number} (h : options.Growing limit delay cap factor) :
    ∀ m, factor.value? = some m → 1 ≤ m := by
  intro m hm
  exact (Number.le_iff_of_value? rfl hm).mp h.one_le

namespace Retry

section Runs

variable {ε κ α : Type} {options : RetryOptions} {limit : ℕ} {delay cap : ℚ} {factor : Number}

/-- The exact delay behind attempt `k + 1`: the scheduled one, or none at all when zero was multiplied
by infinity. -/
def Stands (delay cap : ℚ) (factor : Number) (k : ℕ) (current : Option Place) : Prop :=
  current = some (.rational (scheduledDelay delay cap factor.value? k)) ∨
    current = none ∧ factor.value? = none

/-- The exact delay behind a scheduled one is the next one of the schedule. -/
theorem exact_following (h : options.Growing limit delay cap factor) (k : ℕ) :
    ∃ current, DelayArithmetic.exact.following options
        (some (.rational (scheduledDelay delay cap factor.value? k))) = .ok current ∧
      Stands delay cap factor (k + 1) current := by
  obtain ⟨m, hm, hone⟩ | ⟨hinfinite, hgreatest⟩ := Number.place?_of_one_le h.one_le
  · have hgrown := DelayArithmetic.exact_times_rational hm (scheduledDelay delay cap (some m) k)
    rw [hm]
    refine ⟨_, DelayArithmetic.following_of_times h.multiplier hgrown, .inl ?_⟩
    rw [DelayArithmetic.exact_least_rational h.longest, hm,
      scheduledDelay_succ h.longest_nonneg hone]
  · have hgrown := DelayArithmetic.exact_times_greatest hgreatest
      (.rational (scheduledDelay delay cap none k))
    rw [hinfinite]
    refine ⟨_, DelayArithmetic.following_of_times h.multiplier hgrown, ?_⟩
    have hnone : ∀ m : ℚ, none = some m → 1 ≤ m := by
      intro m hm
      cases hm
    have hnonneg := scheduledDelay_nonneg h.first_nonneg h.longest_nonneg hnone k
    obtain hzero | hpos := hnonneg.eq_or_lt
    · rw [← hzero, Place.times_greatest_of_zero]
      exact .inr ⟨rfl, hinfinite⟩
    · rw [Place.times_greatest_of_pos hpos, DelayArithmetic.exact_least_greatest h.longest]
      exact .inl (hinfinite ▸ rfl)

/-- What follows an exact delay stands behind the next attempt. -/
theorem Stands.following (h : options.Growing limit delay cap factor) {k : ℕ}
    {current : Option Place} (hstands : Stands delay cap factor k current) :
    ∃ next, DelayArithmetic.exact.following options current = .ok next ∧
      Stands delay cap factor (k + 1) next := by
  obtain rfl | ⟨rfl, hinfinite⟩ := hstands
  · exact exact_following h k
  · have hgrown : DelayArithmetic.exact.times none factor = .ok none := rfl
    exact ⟨none, DelayArithmetic.following_of_times h.multiplier hgrown, .inr ⟨rfl, hinfinite⟩⟩

/-- What a course shows that is at attempt `k + 1` and follows the schedule from there. -/
structure Follows (delay cap : ℚ) (multiplier? : Option ℚ) (k : ℕ) (pauses : List ℚ)
    (course : Course ℚ ε κ α) : Prop where
  pauses_eq : pauses =
    (List.range' k pauses.length).map fun j => scheduledDelay delay cap multiplier? j / 1000
  waits_eq : course.waits = rounds (k + 1) pauses ++ [.attempt (k + 1 + pauses.length)] ∨
    course.waits = rounds (k + 1) pauses ∧ ∃ cause, course.ending = .interrupted cause
  computed : multiplier? ≠ none →
    (∀ fault, course.ending ≠ .faulted fault) ∧ course.ending ≠ .unfinished

/-- One round in front of a course that follows the schedule. -/
theorem Follows.cons {multiplier? : Option ℚ} {k : ℕ} {pauses : List ℚ}
    {course : Course ℚ ε κ α} (h : Follows delay cap multiplier? (k + 1) pauses course)
    (entries : List LogEntry) :
    Follows delay cap multiplier? k (scheduledDelay delay cap multiplier? k / 1000 :: pauses)
      (course.after
        [.attempt (k + 1), .pause (scheduledDelay delay cap multiplier? k / 1000)] entries) := by
  refine ⟨?_, ?_, h.computed⟩
  · rw [List.length_cons, List.range'_succ, List.map_cons, ← h.pauses_eq]
  · obtain hattempt | ⟨hpause, hcause⟩ := h.waits_eq
    · left
      have hnumber : k + 1 + (pauses.length + 1) = k + 1 + 1 + pauses.length := by omega
      simp only [Course.after, hattempt, rounds, List.length_cons, hnumber, List.cons_append,
        List.nil_append]
    · right
      refine ⟨?_, hcause⟩
      simp only [Course.after, hpause, rounds, List.cons_append, List.nil_append]

/-- Attempt `k + 1` is the last one, whatever it ends in, or the operation pauses for the scheduled
delay behind it. -/
theorem exists_follows (h : options.Growing limit delay cap factor) (message : ε → String)
    (script : Script ε κ α) {fuel k : ℕ} (hk : k < limit) (hfuel : limit ≤ fuel + k)
    {current : Option Place} (hstands : Stands delay cap factor k current) :
    ∃ pauses, Follows delay cap factor.value? k pauses
      (courseInFrom .exact options message script fuel (k + 1) current) := by
  induction fuel generalizing k current with
  | zero => omega
  | succ fuel ih =>
    rw [courseInFrom]
    cases script.attempt (k + 1) with
    | returned value => exact ⟨[], rfl, .inl rfl, fun _ => ⟨nofun, nofun⟩⟩
    | interrupted cause => exact ⟨[], rfl, .inl rfl, fun _ => ⟨nofun, nofun⟩⟩
    | failed error =>
      cases hlast : options.isLast (k + 1) with
      | true => exact ⟨[], rfl, .inl rfl, fun _ => ⟨nofun, nofun⟩⟩
      | false =>
        obtain rfl | ⟨rfl, hinfinite⟩ := hstands
        · obtain ⟨following, hfollowing, hnext⟩ := exact_following h k
          have hleft : k + 1 < limit := by
            rw [Bool.eq_false_iff, ne_eq, RetryOptions.isLast_iff h.attempts] at hlast
            omega
          obtain ⟨pauses, hpauses⟩ := ih hleft (by omega) hnext
          rw [hfollowing]
          cases script.interruption? (k + 1) with
          | some cause =>
            exact ⟨[scheduledDelay delay cap factor.value? k / 1000], rfl, .inr ⟨rfl, cause, rfl⟩,
              fun _ => ⟨nofun, nofun⟩⟩
          | none => exact ⟨_, hpauses.cons _⟩
        · exact ⟨[], rfl, .inl rfl, fun hfinite => absurd hinfinite hfinite⟩

/-- A first pause and further ones that are bounded last no longer than the bounds together. -/
theorem sum_take_le {first bound : ℚ} {rest : List ℚ} (hrest : ∀ s ∈ rest, s ≤ bound)
    (hbound : 0 ≤ bound) (count : ℕ) :
    ((first :: rest).take (count + 1)).sum ≤ first + count * bound := by
  rw [List.take_succ_cons, List.sum_cons]
  have hshort : (rest.take count).length ≤ count := List.length_take_le count rest
  gcongr
  calc (rest.take count).sum
    _ ≤ (rest.take count).length • bound :=
      List.sum_le_card_nsmul _ _ fun s hs => hrest s (List.mem_of_mem_take hs)
    _ = (rest.take count).length * bound := nsmul_eq_mul _ _
    _ ≤ count * bound := by gcongr

theorem Follows.pauses {multiplier? : Option ℚ} {k : ℕ} {pauses : List ℚ} {course : Course ℚ ε κ α}
    (h : Follows delay cap multiplier? k pauses course) : course.pauses = pauses := by
  obtain hattempt | ⟨hpause, -⟩ := h.waits_eq
  · exact Course.pauses_eq_of_attempt hattempt
  · exact Course.pauses_eq_of_rounds hpause

/-- Only an interrupted pause has no attempt behind it. -/
theorem Follows.between {multiplier? : Option ℚ} {pauses : List ℚ} {course : Course ℚ ε κ α}
    (h : Follows delay cap multiplier? 0 pauses course) :
    course.pauses.length + 1 = course.attempts ∨
      course.pauses.length = course.attempts ∧ ∃ cause, course.ending = .interrupted cause := by
  rw [h.pauses]
  obtain hattempt | ⟨hpause, hcause⟩ := h.waits_eq
  · rw [Nat.zero_add, Nat.add_comm 1] at hattempt
    exact .inl (Course.stopsAtAttempt_of_waits rfl hattempt).attempts.symm
  · exact .inr ⟨(Course.stopsInPause_of_waits rfl hpause).attempts.symm, hcause⟩

theorem Follows.lengths {multiplier? : Option ℚ} {pauses : List ℚ} {course : Course ℚ ε κ α}
    (h : Follows delay cap multiplier? 0 pauses course) (k : ℕ) (hk : k < course.pauses.length) :
    course.pauses[k] = scheduledDelay delay cap multiplier? k / 1000 := by
  obtain rfl := h.pauses
  rw [List.getElem_of_eq h.pauses_eq hk]
  simp

/-- A whole course that follows the schedule has the pauses of the schedule. -/
theorem Follows.scheduled (h : options.Growing limit delay cap factor) {pauses : List ℚ}
    {course : Course ℚ ε κ α} (hfollows : Follows delay cap factor.value? 0 pauses course) :
    course.Scheduled delay cap factor.value? := by
  have hlengths := hfollows.lengths
  have hcapped : ∀ k (hk : k < course.pauses.length), 0 < k → course.pauses[k] ≤ cap / 1000 := by
    intro k hk hpos
    obtain ⟨j, rfl⟩ := Nat.exists_eq_add_one.mpr hpos
    rw [hlengths (j + 1) hk]
    gcongr
    exact scheduledDelay_succ_le j
  refine ⟨hlengths, hcapped, ?_, hfollows.between, ?_, hfollows.computed⟩
  · intro hle
    rw [List.pairwise_iff_getElem]
    intro i j hi hj hij
    rw [hlengths i hi, hlengths j hj]
    gcongr
    exact scheduledDelay_mono h.first_nonneg hle h.one_le_of_value? hij.le
  · intro hattempts
    have hsome : 0 < course.pauses.length := by
      have hbetween := hfollows.between
      omega
    obtain ⟨first, rest, hlist⟩ := List.exists_cons_of_length_pos hsome
    have hfirst : first = delay / 1000 := by simpa [hlist, scheduledDelay] using hlengths 0 hsome
    have hrest : ∀ seconds ∈ rest, seconds ≤ cap / 1000 := by
      intro seconds hseconds
      obtain ⟨k, hk, rfl⟩ := List.getElem_of_mem hseconds
      simpa [hlist] using hcapped (k + 1) (by simpa [hlist] using hk) k.succ_pos
    have hbound : 0 ≤ cap / 1000 := div_nonneg h.longest_nonneg (by norm_num)
    have hcount : course.attempts - 1 = course.attempts - 2 + 1 := by omega
    calc (course.pauses.take (course.attempts - 1)).sum
      _ ≤ first + (course.attempts - 2 : ℕ) * (cap / 1000) := by
        rw [hlist, hcount]
        exact sum_take_le hrest hbound _
      _ = (delay + (course.attempts - 2) * cap) / 1000 := by
        rw [hfirst, Nat.cast_sub hattempts]
        push_cast
        ring

/-! ## Delays that need no rounding -/

/-- The smaller of two numbers lies where the smaller of their places is. -/
theorem place?_least {longest : Number} (h : longest.value? = some cap) (grown : Number) :
    (grown.least longest).place? = DelayArithmetic.exact.least grown.place? longest := by
  have hplace : longest.place? = some (.rational cap) := Number.place?_eq_rational_iff.mpr h
  cases hgrown : grown.place? with
  | none => simp [Number.least, Number.lt, Number.le, DelayArithmetic.exact, hplace, hgrown]
  | some p =>
    simp only [Number.least, Number.lt, Number.le, Number.eqv, DelayArithmetic.exact, hplace, hgrown]
    by_cases hle : (Place.rational cap).le p = true
    · by_cases heq : Place.rational cap = p
      · simp [heq, hgrown]
      · simp [hle, heq, hplace]
    · simp [hle, hgrown]

/-- The first delays that the program computes come out exactly. -/
structure Unrounded (options : RetryOptions) (factor : Number) (count : ℕ) : Prop where
  first : ∀ d, DelayArithmetic.binary64.ofNumber options.delayMs.value = .ok d →
    d.place? = options.delayMs.value.place?
  product : ∀ k, k + 1 < count → ∀ d grown, DelayArithmetic.binary64.delays options k = .ok d →
    d.mul factor = .ok grown → DelayArithmetic.exact.times d.place? factor = .ok grown.place?

/-- Delays that come out exactly are those of the schedule. -/
theorem Unrounded.stands (h : options.Growing limit delay cap factor) {count : ℕ}
    (hexact : Unrounded options factor count) {k : ℕ} (hk : k < count) {d : Number}
    (hd : DelayArithmetic.binary64.delays options k = .ok d) :
    Stands delay cap factor k d.place? := by
  induction k generalizing d with
  | zero => exact .inl ((hexact.first d hd).trans (Number.place?_eq_rational_iff.mpr h.first))
  | succ k ih =>
    obtain ⟨d, hprevious, hfollowing⟩ := bind_eq_ok_iff.mp hd
    obtain ⟨x, hx, hfollowing⟩ := bind_eq_ok_iff.mp hfollowing
    obtain rfl : factor = x := Except.ok.inj (h.multiplier.symm.trans hx)
    obtain ⟨grown, hgrown, hleast⟩ := bind_eq_ok_iff.mp hfollowing
    obtain ⟨next, hnext, hstands⟩ := (ih (by omega) hprevious).following h
    have hproduct := hexact.product k hk d grown hprevious hgrown
    rw [DelayArithmetic.following_of_times h.multiplier hproduct, ← place?_least h.longest] at hnext
    rw [← Except.ok.inj hleast]
    exact Except.ok.inj hnext ▸ hstands

theorem place?_ne_none_of_wholePart {d : Number} {whole : Int} (h : d.wholePart = .ok whole) :
    d.place? ≠ none := by
  intro hnone
  cases d with
  | int i => cases hnone
  | float x =>
    cases x with
    | finite | infinite => cases hnone
    | nan => cases h

/-- A pause of the program whose delay comes out exactly is the binary64 value nearest to the pause
that is scheduled. -/
theorem Unrounded.pause (h : options.Growing limit delay cap factor) (message : ε → String)
    (script : Script ε κ α)
    (hexact : Unrounded options factor (course options message script).pauses.length) {k : ℕ}
    {seconds : Binary64} (hk : (course options message script).pauses[k]? = some seconds) :
    ∃ d : Number, d.value? = some (scheduledDelay delay cap factor.value? k) ∧
      d.thousandth = .ok seconds := by
  have hlt : k < (course options message script).pauses.length := (List.getElem?_eq_some_iff.mp hk).1
  rw [← courseIn_binary64, courseIn] at hk
  cases hfirst : DelayArithmetic.binary64.ofNumber options.delayMs.value with
  | error fault => simp [hfirst, Course.pauses] at hk
  | ok first =>
    rw [hfirst] at hk
    obtain ⟨d, hd, ⟨whole, hwhole⟩, hseconds⟩ := 
      exists_delay_of_pause (A := .binary64) (k := 0) message script hfirst hk
    rw [Nat.zero_add] at hd
    refine ⟨d, ?_, hseconds⟩
    obtain hplace | ⟨hnone, -⟩ := hexact.stands h hlt hd
    · exact Number.place?_eq_rational_iff.mp hplace
    · exact absurd hnone (place?_ne_none_of_wholePart hwhole)

/-- The pauses of every course follow the schedule of the initial delay, the longest delay and the
multiplier, when delays are computed exactly. In exact arithmetic they always are; in that of the
program, as far as nothing is rounded, and then each pause is the nearest binary64 value. -/
theorem scheduled_course (h : options.Growing limit delay cap factor) (message : ε → String)
    (script : Script ε κ α) :
    courseIn .binary64 options message script = course options message script ∧
    (courseIn .exact options message script).Scheduled delay cap factor.value? ∧
    (Unrounded options factor (course options message script).pauses.length →
      ∀ k seconds, (course options message script).pauses[k]? = some seconds →
        ∃ d : Number, d.value? = some (scheduledDelay delay cap factor.value? k) ∧
          d.thousandth = .ok seconds) := by
  refine ⟨courseIn_binary64 options message script, ?_, ?_⟩
  · have hfirst : DelayArithmetic.exact.ofNumber options.delayMs.value =
        .ok (some (.rational delay)) :=
      congrArg Except.ok (Number.place?_eq_rational_iff.mpr h.first)
    have hstands : Stands delay cap factor 0 (some (.rational delay)) := .inl rfl
    have hfuel : limit ≤ attemptLimit options + 0 := (attemptLimit_eq h.attempts).ge
    obtain ⟨pauses, hfollows⟩ := exists_follows h message script h.attempts_pos hfuel hstands
    rw [courseIn, hfirst]
    exact hfollows.scheduled h
  · intro hexact k seconds hk
    exact hexact.pause h message script hk

/-- Three attempts, with delays that double from one second up to one and a half. -/
def steep : RetryOptions :=
  ⟨.number (.int 3), .number (.int 1000), .num (.int 2), .number (.int 1500)⟩

/-- A script of attempts that all fail. -/
def neverSent : Script String Empty Nat := .ofOutcomes fun number => .error s!"down {number}"

theorem scheduled_course_steep :
    (courseIn .exact steep id neverSent).Scheduled 1000 1500 (some 2) ∧
      (courseIn .exact steep id neverSent).pauses = [1, 3 / 2] ∧
      ∃ d : Number, d.value? = some (scheduledDelay 1000 1500 (some 2) 1) ∧
        d.thousandth = .ok ((Binary64.ofInt 3).divNat 2) := by
  have hgrowing : steep.Growing 3 1000 1500 (.int 2) :=
    ⟨rfl, by decide, rfl, by norm_num, rfl, by norm_num, rfl, by decide⟩
  obtain ⟨-, hscheduled, hrounded⟩ := scheduled_course hgrowing id neverSent
  have hpauses : (course steep id neverSent).pauses = [.ofInt 1, (Binary64.ofInt 3).divNat 2] := by
    decide +kernel
  have hexact : Unrounded steep (.int 2) (course steep id neverSent).pauses.length := by
    have hfirst : DelayArithmetic.binary64.delays steep 0 = .ok (.float (.ofInt 1000)) := rfl
    rw [hpauses]
    refine ⟨?_, ?_⟩
    · intro d hd
      rw [← Except.ok.inj (hfirst.symm.trans hd)]
      decide +kernel
    · intro k hk d grown hd hgrown
      obtain rfl : k = 0 := Nat.lt_one_iff.mp (Nat.lt_of_succ_lt_succ hk)
      obtain rfl := Except.ok.inj (hfirst.symm.trans hd)
      have hproduct : (Number.float (.ofInt 1000)).mul (.int 2) = .ok (.float (.ofInt 2000)) := rfl
      rw [← Except.ok.inj (hproduct.symm.trans hgrown)]
      refine congrArg Except.ok ?_
      decide +kernel
  refine ⟨hscheduled, by decide +kernel, hrounded hexact 1 _ ?_⟩
  rw [hpauses]
  rfl

end Runs

end Retry

end Automation
