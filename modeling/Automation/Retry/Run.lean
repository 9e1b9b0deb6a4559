import Automation.Retry.Basic

/-!
# Courses of a retried operation

The whole course of retrying one operation, given how each of its attempts ends and whether anything
interrupts a pause: what is waited for, the reports, and how it ends. A failed attempt is retried. An
interruption is no failure of the operation, and nothing is done about it.

## Main definitions

* `Retry.Script` — what a retried operation meets.
* `Retry.Course`, `Retry.course` — its course for given options.
* `RetryExecutor` — holds the options for operations that have none of their own.
* `Retry.run` — the course of an operation that nothing interrupts, in numbers.
-/

namespace Automation

namespace Retry

variable {σ ε κ α : Type}

/-- How an attempt ends: with a value, with an error of the operation, or by an interruption. -/
inductive AttemptEnd (ε κ α : Type) where
  | returned (value : α)
  | failed (error : ε)
  | interrupted (cause : κ)

/-- What a retried operation meets: how each attempt ends, by its number from one on, and what
interrupts the pause behind it, if anything does. -/
structure Script (ε κ α : Type) where
  attempt : Nat → AttemptEnd ε κ α
  interruption? : Nat → Option κ

/-- The script of attempts whose outcomes are given, when nothing interrupts them. -/
def Script.ofOutcomes (outcome : Nat → Except ε α) : Script ε Empty α where
  attempt number := match outcome number with
    | .ok value => .returned value
    | .error error => .failed error
  interruption? _ := none

/-- Something that a retried operation waits for. -/
inductive Wait (σ : Type) where
  | attempt (number : Nat)
  | pause (seconds : σ)
  deriving DecidableEq, Repr

namespace Wait

def isAttempt : Wait σ → Bool
  | .attempt _ => true
  | .pause _ => false

/-- How long a pause lasts. -/
def seconds? : Wait σ → Option σ
  | .attempt _ => none
  | .pause seconds => some seconds

end Wait

/-- How a course ends: with the value or the error of its last attempt, with a fault in computing a
delay, or by an interruption. -/
inductive Ending (ε κ α : Type) where
  | returned (value : α)
  | failed (error : ε)
  | faulted (fault : ArithmeticFault)
  | interrupted (cause : κ)
  /-- The course was followed no further. -/
  | unfinished

/-- The course of a retried operation, with the lengths of its pauses in seconds. -/
structure Course (σ ε κ α : Type) where
  waits : List (Wait σ)
  entries : List LogEntry
  ending : Ending ε κ α

namespace Course

/-- The course with waits and reports in front. -/
def after (waits : List (Wait σ)) (entries : List LogEntry) (course : Course σ ε κ α) :
    Course σ ε κ α :=
  ⟨waits ++ course.waits, entries ++ course.entries, course.ending⟩

/-- How many attempts are made. -/
def attempts (course : Course σ ε κ α) : Nat := course.waits.countP Wait.isAttempt

/-- How long the pauses last. -/
def pauses (course : Course σ ε κ α) : List σ := course.waits.filterMap Wait.seconds?

end Course

/-- How many attempts are followed when the options set no end. -/
def endlessAttempts : Nat := 1000000

/-- The most attempts that options allow. -/
def attemptLimit (options : RetryOptions) : Nat :=
  match options.maxAttempts.value with
  | .int i => i.toNat
  | .float x =>
    match x.truncate? with
    | some i => i.toNat + 1
    | none => endlessAttempts

/-- The course from an attempt on, for at most `fuel` attempts. -/
def courseFrom (options : RetryOptions) (message : ε → String) (script : Script ε κ α) :
    Nat → Backoff → Course Binary64 ε κ α
  | 0, _ => ⟨[], [], .unfinished⟩
  | fuel + 1, backoff =>
    let attempt : Wait Binary64 := .attempt backoff.attempt
    match script.attempt backoff.attempt with
    | .returned value => ⟨[attempt], [], .returned value⟩
    | .interrupted cause => ⟨[attempt], [], .interrupted cause⟩
    | .failed error =>
      match backoff.decide options (message error) with
      | (.giveUp, entries) => ⟨[attempt], entries, .failed error⟩
      | (.stop fault, entries) => ⟨[attempt], entries, .faulted fault⟩
      | (.pause seconds, entries) =>
        let waits := [attempt, .pause seconds]
        match script.interruption? backoff.attempt with
        | some cause => ⟨waits, entries, .interrupted cause⟩
        | none =>
          match backoff.next options with
          | .error fault => ⟨waits, entries, .faulted fault⟩
          | .ok following => (courseFrom options message script fuel following).after waits entries

/-- The course of an operation whose errors have messages. -/
def course (options : RetryOptions) (message : ε → String) (script : Script ε κ α) :
    Course Binary64 ε κ α :=
  match Backoff.first options with
  | .error fault => ⟨[], [], .faulted fault⟩
  | .ok backoff => courseFrom options message script (attemptLimit options) backoff

/-- Why a retried operation fails: its last attempt did, or a delay could not be computed. -/
inductive RunError where
  | operation (message : String)
  | arithmetic (fault : ArithmeticFault)
  deriving DecidableEq, Repr

/-- The course of a retried operation in numbers. -/
structure Run (α : Type) where
  result : Except RunError α
  attempts : Nat
  pauses : List Binary64
  entries : List LogEntry

/-- What comes of an operation that nothing interrupts. -/
def Ending.result : Ending String Empty α → Except RunError α
  | .returned value => .ok value
  | .failed message => .error (.operation message)
  | .faulted fault => .error (.arithmetic fault)
  | .unfinished => .error (.operation "")

/-- The course of an operation whose attempt number `n` ends in `outcome n`, from one on. -/
def run (options : RetryOptions) (outcome : Nat → Except String α) : Run α :=
  let course := course options id (.ofOutcomes outcome)
  ⟨course.ending.result, course.attempts, course.pauses, course.entries⟩

end Retry

/-- Holds the options of operations that have none of their own. -/
structure RetryExecutor where
  options : RetryOptions
  deriving DecidableEq, Repr

namespace RetryExecutor

/-- An executor with the options given, or with the standard ones. -/
def ofOptions? (options? : Option RetryOptions) : RetryExecutor := ⟨options?.getD .standard⟩

/-- The options of an operation: its own ones if it has any. -/
def optionsFor (executor : RetryExecutor) (own? : Option RetryOptions) : RetryOptions :=
  own?.getD executor.options

/-- The course of an operation that may have options of its own. -/
def course {ε κ α : Type} (executor : RetryExecutor) (own? : Option RetryOptions)
    (message : ε → String) (script : Retry.Script ε κ α) :
    Retry.Course Binary64 ε κ α :=
  Retry.course (executor.optionsFor own?) message script

end RetryExecutor

end Automation
