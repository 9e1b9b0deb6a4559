import Automation.Proofs.Retry.Delays
import Automation.Retry.Run

/-!
# Attempts of a retried operation

A retried operation goes through rounds of a failed attempt and a pause. It leaves them with the first
attempt that does not fail, with the failure of the last attempt that is allowed, or with an
interruption, of an attempt or of a pause. With delays that can be computed there is no other way.

## Main definitions

* `Retry.Script.Passes` — an attempt fails, and nothing interrupts the pause behind it.
* `Retry.rounds` — the waits of failed attempts, each with its pause.
* `Retry.Course.StopsAtAttempt`, `Retry.Course.StopsInPause` — the two shapes of a course.
* `Retry.Course.Orderly` — how a course goes, for every script.

## Main statements

* `Retry.exists_passed` — behind failed attempts, the course is the one from the next attempt on.
* `Retry.orderly_of_computes` — with delays that can be computed, a course is orderly.
* `Retry.orderly_course` — so it is whether the options are the operation's or those of an executor.
-/

namespace Automation.Retry

variable {σ ε κ α : Type} {options : RetryOptions} {script : Script ε κ α} (message : ε → String)

/-- An attempt fails, and nothing interrupts the pause behind it. -/
def Script.Passes (script : Script ε κ α) (number : Nat) : Prop :=
  (∃ error, script.attempt number = .failed error) ∧ script.interruption? number = none

/-! ## Rounds -/

/-- Attempts from a number on, each with a pause behind it. -/
def rounds : Nat → List σ → List (Wait σ)
  | _, [] => []
  | number, seconds :: rest => .attempt number :: .pause seconds :: rounds (number + 1) rest

theorem rounds_concat (number : Nat) (pauses : List σ) (seconds : σ) :
    rounds number (pauses ++ [seconds]) =
      rounds number pauses ++ [.attempt (number + pauses.length), .pause seconds] := by
  induction pauses generalizing number with
  | nil => rfl
  | cons first rest ih =>
    simp only [List.cons_append, rounds, ih, List.length_cons]
    rw [Nat.add_right_comm, Nat.add_assoc]

theorem countP_rounds (number : Nat) (pauses : List σ) :
    (rounds number pauses).countP Wait.isAttempt = pauses.length := by
  induction pauses generalizing number with
  | nil => rfl
  | cons seconds rest ih => simp [rounds, List.countP_cons, Wait.isAttempt, ih]

theorem filterMap_rounds (number : Nat) (pauses : List σ) :
    (rounds number pauses).filterMap Wait.seconds? = pauses := by
  induction pauses generalizing number with
  | nil => rfl
  | cons seconds rest ih => simp [rounds, List.filterMap_cons, Wait.seconds?, ih]

/-! ## The shapes of a course -/

/-- A course ends at the attempt of a number: all attempts up to it are made, with exactly one pause
between each of them and the next. -/
structure Course.StopsAtAttempt (course : Course σ ε κ α) (number : Nat) : Prop where
  attempts : course.attempts = number
  pauses : course.pauses.length + 1 = number
  waits : course.waits = rounds 1 course.pauses ++ [.attempt number]

/-- A course ends in the pause behind the attempt of a number. -/
structure Course.StopsInPause (course : Course σ ε κ α) (number : Nat) : Prop where
  attempts : course.attempts = number
  pauses : course.pauses.length = number
  waits : course.waits = rounds 1 course.pauses

theorem Course.pauses_eq_of_attempt {course : Course σ ε κ α} {number last : Nat} {pauses : List σ}
    (hwaits : course.waits = rounds number pauses ++ [.attempt last]) : course.pauses = pauses := by
  rw [Course.pauses, hwaits, List.filterMap_append, filterMap_rounds]
  exact List.append_nil pauses

theorem Course.pauses_eq_of_rounds {course : Course σ ε κ α} {number : Nat} {pauses : List σ}
    (hwaits : course.waits = rounds number pauses) : course.pauses = pauses := by
  rw [Course.pauses, hwaits, filterMap_rounds]

theorem Course.stopsAtAttempt_of_waits {course : Course σ ε κ α} {pauses : List σ}
    {number : Nat}
    (hpauses : pauses.length + 1 = number)
    (hwaits : course.waits = rounds 1 pauses ++ [.attempt number]) :
    course.StopsAtAttempt number := by
  have hseconds : course.pauses = pauses := Course.pauses_eq_of_attempt hwaits
  refine ⟨?_, hseconds ▸ hpauses, hseconds ▸ hwaits⟩
  rw [Course.attempts, hwaits, List.countP_append, countP_rounds]
  exact hpauses

theorem Course.stopsInPause_of_waits {course : Course σ ε κ α} {pauses : List σ}
    {number : Nat}
    (hpauses : pauses.length = number) (hwaits : course.waits = rounds 1 pauses) :
    course.StopsInPause number := by
  have hseconds : course.pauses = pauses := Course.pauses_eq_of_rounds hwaits
  refine ⟨?_, hseconds ▸ hpauses, hseconds ▸ hwaits⟩
  rw [Course.attempts, hwaits, countP_rounds, hpauses]

/-- How a course with at most `limit` attempts goes. As long as attempts fail and no pause is
interrupted, another attempt follows; what comes first of the other things that can happen decides
how the course ends, and no attempt follows it. -/
structure Course.Orderly (limit : Nat) (script : Script ε κ α) (course : Course σ ε κ α) : Prop where
  /-- The first attempt that does not fail gives its value. -/
  returned : ∀ number value, 0 < number → number ≤ limit →
    (∀ earlier, 0 < earlier → earlier < number → script.Passes earlier) →
    script.attempt number = .returned value →
    course.ending = .returned value ∧ course.StopsAtAttempt number
  /-- When all attempts fail, the error is that of the last one. -/
  exhausted : ∀ error, (∀ earlier, 0 < earlier → earlier < limit → script.Passes earlier) →
    script.attempt limit = .failed error →
    course.ending = .failed error ∧ course.StopsAtAttempt limit
  /-- An interrupted attempt is the last one. -/
  attemptInterrupted : ∀ number cause, 0 < number → number ≤ limit →
    (∀ earlier, 0 < earlier → earlier < number → script.Passes earlier) →
    script.attempt number = .interrupted cause →
    course.ending = .interrupted cause ∧ course.StopsAtAttempt number
  /-- No attempt follows an interrupted pause. -/
  pauseInterrupted : ∀ number error cause, 0 < number → number < limit →
    (∀ earlier, 0 < earlier → earlier < number → script.Passes earlier) →
    script.attempt number = .failed error → script.interruption? number = some cause →
    course.ending = .interrupted cause ∧ course.StopsInPause number

/-! ## From attempt to attempt -/

theorem attemptLimit_eq {limit : Nat} (hlimit : options.maxAttempts.value = .int limit) :
    attemptLimit options = limit := by
  simp only [attemptLimit, hlimit, Int.toNat_natCast]

/-- The failure of the last attempt is the end of the course. -/
theorem courseFrom_of_last {backoff : Backoff} (hlast : options.isLast backoff.attempt = true)
    {error : ε} (hfails : script.attempt backoff.attempt = .failed error) (fuel : Nat) :
    ∃ entries, courseFrom options message script (fuel + 1) backoff =
      ⟨[.attempt backoff.attempt], entries, .failed error⟩ := by
  rw [RetryOptions.isLast] at hlast
  refine ⟨[Backoff.exhaustedEntry options (message error)], ?_⟩
  simp only [courseFrom, hfails, Backoff.decide, hlast, if_true]

/-- A failed attempt that is not the last one is followed by a pause. -/
theorem courseFrom_of_failed (hcomputes : options.Computes) {backoff : Backoff}
    (hreached : backoff.Reached options) (hleft : options.isLast backoff.attempt = false) {error : ε}
    (hfails : script.attempt backoff.attempt = .failed error) :
    ∃ seconds entries, ∃ following : Backoff, following.Reached options ∧
      following.attempt = backoff.attempt + 1 ∧
      ∀ fuel, courseFrom options message script (fuel + 1) backoff =
        match script.interruption? backoff.attempt with
        | some cause => ⟨[.attempt backoff.attempt, .pause seconds], entries, .interrupted cause⟩
        | none => (courseFrom options message script fuel following).after
            [.attempt backoff.attempt, .pause seconds] entries := by
  obtain ⟨⟨whole, hwhole⟩, ⟨seconds, hseconds⟩, following, hnext⟩ :=
    hcomputes.onward backoff hreached hleft
  have hattempt := Backoff.attempt_next hnext
  refine ⟨seconds, [Backoff.retryingEntry backoff.attempt whole (message error)], following,
    .next hreached hleft hnext, hattempt, ?_⟩
  intro fuel
  rw [RetryOptions.isLast] at hleft
  cases hpause : script.interruption? backoff.attempt with
  | some cause =>
    simp only [courseFrom, hfails, Backoff.decide, hleft, Bool.false_eq_true, if_false, hwhole,
      hseconds, hpause]
  | none =>
    simp only [courseFrom, hfails, Backoff.decide, hleft, Bool.false_eq_true, if_false, hwhole,
      hseconds, hpause, hnext]

/-- Behind failed attempts whose pauses pass, the course is the one from the next attempt on. -/
theorem exists_passed (hcomputes : options.Computes) {failed : Nat}
    (hleft : ∀ number, 0 < number → number ≤ failed → options.isLast number = false)
    (hpasses : ∀ number, 0 < number → number ≤ failed → script.Passes number) {fuel : Nat}
    (hfuel : attemptLimit options = fuel + failed) :
    ∃ backoff pauses entries, Backoff.Reached options backoff ∧ backoff.attempt = failed + 1 ∧
      pauses.length = failed ∧ course options message script =
        (courseFrom options message script fuel backoff).after (rounds 1 pauses) entries := by
  induction failed generalizing fuel with
  | zero =>
    obtain ⟨backoff, hfirst⟩ := hcomputes.first
    refine ⟨backoff, [], [], .first hfirst, Backoff.attempt_first hfirst, rfl, ?_⟩
    rw [course, hfirst, hfuel]
    rfl
  | succ failed ih =>
    have hmore : attemptLimit options = (fuel + 1) + failed := by omega
    obtain ⟨backoff, pauses, entries, hreached, hattempt, hlength, hcourse⟩ :=
      ih (fun number hpos hle => hleft number hpos (by omega))
        (fun number hpos hle => hpasses number hpos (by omega)) hmore
    obtain ⟨⟨error, hfails⟩, hpause⟩ := hpasses (failed + 1) (by omega) le_rfl
    rw [← hattempt] at hfails hpause
    have hnotLast : options.isLast backoff.attempt = false := by
      rw [hattempt]
      exact hleft (failed + 1) (by omega) le_rfl
    obtain ⟨seconds, more, following, hfollowing, hsucc, hround⟩ :=
      courseFrom_of_failed message hcomputes hreached hnotLast hfails
    refine ⟨following, pauses ++ [seconds], entries ++ more, hfollowing, by omega, by simp [hlength],
      ?_⟩
    have hnumber : 1 + pauses.length = backoff.attempt := by omega
    rw [hcourse, hround, hpause, rounds_concat, hnumber]
    simp only [Course.after, List.append_assoc]

/-- Each attempt up to the limit is reached when all attempts before it pass. -/
theorem exists_reached {limit : Nat} (hcomputes : options.Computes)
    (hlimit : options.maxAttempts.value = .int limit) {number : Nat} (hpos : 0 < number)
    (hle : number ≤ limit)
    (hpasses : ∀ earlier, 0 < earlier → earlier < number → script.Passes earlier) :
    ∃ backoff pauses entries fuel, Backoff.Reached options backoff ∧ backoff.attempt = number ∧
      pauses.length + 1 = number ∧ course options message script =
        (courseFrom options message script (fuel + 1) backoff).after (rounds 1 pauses) entries := by
  have hfuel : attemptLimit options = (limit - number) + 1 + (number - 1) := by
    rw [attemptLimit_eq hlimit]
    omega
  have hleft : ∀ earlier, 0 < earlier → earlier ≤ number - 1 → options.isLast earlier = false := by
    intro earlier _ hearlier
    rw [Bool.eq_false_iff, ne_eq, RetryOptions.isLast_iff hlimit]
    omega
  obtain ⟨backoff, pauses, entries, hreached, hattempt, hlength, hcourse⟩ :=
    exists_passed message hcomputes hleft
      (fun earlier h _ => hpasses earlier h (by omega)) hfuel
  exact ⟨backoff, pauses, entries, limit - number, hreached, by omega, by omega, hcourse⟩

/-- When the delays of its options can be computed, every course is orderly. -/
theorem orderly_of_computes {limit : Nat} (hcomputes : options.Computes)
    (hlimit : options.maxAttempts.value = .int limit) (hpos : 0 < limit)
    (script : Script ε κ α) : (course options message script).Orderly limit script := by
  refine ⟨?_, ?_, ?_, ?_⟩
  · intro number value hnumber hle hpasses hends
    obtain ⟨backoff, pauses, entries, fuel, -, rfl, hlength, hcourse⟩ :=
      exists_reached message hcomputes hlimit hnumber hle hpasses
    rw [hcourse]
    simp only [courseFrom, hends]
    exact ⟨rfl, Course.stopsAtAttempt_of_waits hlength rfl⟩
  · intro error hpasses hfails
    obtain ⟨backoff, pauses, entries, fuel, -, hattempt, hlength, hcourse⟩ :=
      exists_reached message hcomputes hlimit hpos le_rfl hpasses
    rw [← hattempt] at hfails
    have hlast : options.isLast backoff.attempt = true := by
      rw [RetryOptions.isLast_iff hlimit, hattempt]
    obtain ⟨more, hend⟩ := courseFrom_of_last message hlast hfails fuel
    rw [hcourse, hend]
    exact ⟨rfl, Course.stopsAtAttempt_of_waits hlength (hattempt ▸ rfl)⟩
  · intro number cause hnumber hle hpasses hends
    obtain ⟨backoff, pauses, entries, fuel, -, rfl, hlength, hcourse⟩ :=
      exists_reached message hcomputes hlimit hnumber hle hpasses
    rw [hcourse]
    simp only [courseFrom, hends]
    exact ⟨rfl, Course.stopsAtAttempt_of_waits hlength rfl⟩
  · intro number error cause hnumber hlt hpasses hfails hcause
    obtain ⟨backoff, pauses, entries, fuel, hreached, rfl, hlength, hcourse⟩ :=
      exists_reached message hcomputes hlimit hnumber hlt.le hpasses
    have hleft : options.isLast backoff.attempt = false := by
      rw [Bool.eq_false_iff, ne_eq, RetryOptions.isLast_iff hlimit]
      omega
    obtain ⟨seconds, more, following, -, -, hround⟩ :=
      courseFrom_of_failed message hcomputes hreached hleft hfails
    have hnumber : 1 + pauses.length = backoff.attempt := by omega
    have hwaits : rounds 1 pauses ++ [.attempt backoff.attempt, .pause seconds] =
        rounds 1 (pauses ++ [seconds]) := by rw [rounds_concat, hnumber]
    rw [hcourse, hround, hcause]
    exact ⟨rfl, Course.stopsInPause_of_waits (by simpa using hlength) hwaits⟩

/-- The course of a retried operation is orderly, when its options allow a whole number of attempts
and their delays can be computed. An executor retries in the same way, under the options of the
operation if it has any, and under its own otherwise. -/
theorem orderly_course {limit : Nat} (hcomputes : options.Computes)
    (hlimit : options.maxAttempts.value = .int limit) (hpos : 0 < limit)
    (script : Script ε κ α) :
    (course options message script).Orderly limit script ∧
    (∀ executor : RetryExecutor,
      (executor.course (some options) message script).Orderly limit script) ∧
    ((RetryExecutor.mk options).course none message script).Orderly limit script := by
  have horderly := orderly_of_computes message hcomputes hlimit hpos script
  exact ⟨horderly, fun _ => horderly, horderly⟩

/-- A script whose first two attempts fail. -/
def thirdTime : Script String Empty Nat where
  attempt number := if number < 3 then .failed s!"down {number}" else .returned 7
  interruption? _ := none

theorem orderly_course_thirdTime :
    (course .standard id thirdTime).Orderly 3 thirdTime ∧
      (course .standard id thirdTime).ending = .returned 7 ∧
      (course .standard id thirdTime).StopsAtAttempt 3 := by
  have hlimit : RetryOptions.standard.maxAttempts.value = .int (3 : Nat) := rfl
  have horderly := (orderly_course id RetryOptions.computes_standard hlimit (by decide) thirdTime).1
  refine ⟨horderly, horderly.returned 3 7 (by decide) le_rfl ?_ rfl⟩
  intro earlier hpos hlt
  exact ⟨⟨_, if_pos hlt⟩, rfl⟩

end Automation.Retry
