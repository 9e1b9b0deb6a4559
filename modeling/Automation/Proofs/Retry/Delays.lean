import Automation.Proofs.Validation.Field
import Automation.Sync.Engine.Turn
import Mathlib.Data.Rat.Cast.Order

/-!
# Delays between attempts

A retried call goes from attempt to attempt by way of its backoffs: each of them says how long to
pause, and the next one is computed from it. Options whose computations all have answers make every
failed attempt lead to a pause and to a further attempt, up to the last one that is allowed.

## Main definitions

* `RetryOptions.isLast` — whether an attempt is the last one that is allowed.
* `Backoff.Reached` — the backoffs that a retried call can come to.
* `RetryOptions.Computes` — none of their delays raises.

## Main statements

* `RetryOptions.computes_standard` — the standard options compute.
* `Retrying.step_trying_failed`, `Retrying.step_pausing` — a failed attempt that is not the last
  one leads to a pause, and the pause to the next attempt.
-/

namespace Automation

/-- Whether no attempt is left after the one of a number. -/
def RetryOptions.isLast (options : RetryOptions) (attempt : Nat) : Bool :=
  options.maxAttempts.value.le (.int attempt)

/-- A whole number of attempts is used up by as many of them. -/
theorem RetryOptions.isLast_iff {options : RetryOptions} {limit : Int}
    (h : options.maxAttempts.value = .int limit) {attempt : Nat} :
    options.isLast attempt ↔ limit ≤ attempt := by
  simp only [isLast, h, Number.le, Number.place?, Place.le, decide_eq_true_eq]
  exact_mod_cast Iff.rfl

/-- The backoffs that a retried call can come to: the first one, and the one behind an attempt that
is not the last. -/
inductive Backoff.Reached (options : RetryOptions) : Backoff → Prop
  | first {backoff : Backoff} (computed : Backoff.first options = .ok backoff) :
      Reached options backoff
  | next {backoff following : Backoff} (reached : Reached options backoff)
      (left : options.isLast backoff.attempt = false)
      (computed : backoff.next options = .ok following) : Reached options following

/-- The computations of delays have answers, from the first backoff to the last one that is
followed by an attempt. -/
structure RetryOptions.Computes (options : RetryOptions) : Prop where
  first : ∃ backoff, Backoff.first options = .ok backoff
  onward : ∀ backoff, Backoff.Reached options backoff → options.isLast backoff.attempt = false →
    (∃ whole, backoff.delay.wholePart = .ok whole) ∧
    (∃ seconds, backoff.delay.thousandth = .ok seconds) ∧
    ∃ following, backoff.next options = .ok following

variable {options : RetryOptions} {backoff following : Backoff}

theorem Backoff.attempt_first (h : Backoff.first options = .ok backoff) : backoff.attempt = 1 := by
  obtain ⟨delay, -, hbackoff⟩ := bind_eq_ok_iff.mp h
  rw [← Except.ok.inj hbackoff]

theorem Backoff.attempt_next (h : backoff.next options = .ok following) :
    following.attempt = backoff.attempt + 1 := by
  obtain ⟨times, -, h⟩ := bind_eq_ok_iff.mp h
  obtain ⟨grown, -, hfollowing⟩ := bind_eq_ok_iff.mp h
  rw [← Except.ok.inj hfollowing]

/-- The standard options pause for one second and then for two. -/
theorem Backoff.reached_standard (h : backoff.Reached .standard) :
    backoff = ⟨1, .float (.ofInt 1000)⟩ ∨ backoff = ⟨2, .float (.ofInt 2000)⟩ ∨
      RetryOptions.standard.isLast backoff.attempt = true := by
  have hfirst : Backoff.first .standard = .ok ⟨1, .float (.ofInt 1000)⟩ := rfl
  have hsecond : (Backoff.mk 1 (.float (.ofInt 1000))).next .standard =
      .ok ⟨2, .float (.ofInt 2000)⟩ := rfl
  induction h with
  | first computed => exact .inl (Except.ok.inj (computed.symm.trans hfirst))
  | next reached left computed ih =>
    rcases ih with rfl | rfl | hlast
    · exact .inr (.inl (Except.ok.inj (computed.symm.trans hsecond)))
    · right; right
      rw [attempt_next computed]
      rfl
    · rw [hlast] at left
      cases left

/-- The standard options compute. -/
theorem RetryOptions.computes_standard : RetryOptions.standard.Computes := by
  refine ⟨⟨_, rfl⟩, fun backoff hreached hleft => ?_⟩
  rcases Backoff.reached_standard hreached with rfl | rfl | hlast
  · exact ⟨⟨_, rfl⟩, ⟨_, rfl⟩, _, rfl⟩
  · exact ⟨⟨_, rfl⟩, ⟨_, rfl⟩, _, rfl⟩
  · rw [hlast] at hleft
    cases hleft

namespace Retrying

/-- The failure of the last attempt is the end of the call. -/
theorem step_trying_last (h : options.isLast backoff.attempt = true) (failure : Failure) :
    ((Retrying.trying backoff).step options (.failed failure)).1 = .ended (some failure) := by
  rw [RetryOptions.isLast] at h
  simp only [step, Backoff.decide, h, if_true]

/-- The failure of an attempt that is not the last one leads to a pause. -/
theorem step_trying_failed (hcomputes : options.Computes) (hreached : backoff.Reached options)
    (hleft : options.isLast backoff.attempt = false) (failure : Failure) :
    ∃ seconds, ((Retrying.trying backoff).step options (.failed failure)).1 =
      .pause seconds backoff := by
  obtain ⟨⟨whole, hwhole⟩, ⟨seconds, hseconds⟩, -⟩ := hcomputes.onward backoff hreached hleft
  rw [RetryOptions.isLast] at hleft
  refine ⟨seconds, ?_⟩
  simp only [step, Backoff.decide, hleft, Bool.false_eq_true, if_false, hwhole, hseconds]

/-- The pause after an attempt leads to the next one. -/
theorem step_pausing (hcomputes : options.Computes) (hreached : backoff.Reached options)
    (hleft : options.isLast backoff.attempt = false) (answer : Answer) :
    ∃ following : Backoff, following.Reached options ∧
      following.attempt = backoff.attempt + 1 ∧
      ((Retrying.pausing backoff).step options answer).1 = .attempt following := by
  obtain ⟨-, -, following, hnext⟩ := hcomputes.onward backoff hreached hleft
  refine ⟨following, .next hreached hleft hnext, Backoff.attempt_next hnext, ?_⟩
  simp only [step, hnext]

end Retrying

end Automation
