import Automation.Json.Display
import Automation.Log
import Automation.Number.Arithmetic

/-!
# Bounded retries with backoff

How often an outbound call is tried and how long to pause in between. Every failure is retried
alike. The first pause lasts the initial delay; each later one is the delay before it times the
multiplier, cut at the longest delay.

## Main definitions

* `RetryOptions`, `RetryOptions.check` — the options and the bounds they have to keep.
* `Backoff` — the number of the current attempt and the delay in front of the next.
* `Backoff.decide` — what a failed attempt leads to.
* `Backoff.next` — the backoff of the next attempt.
* `Retrying` — where a retried call stands.
-/

namespace Automation

/-- A quantity: a number, or a truth value, which counts as one or zero and is shown as it is. -/
inductive Quantity where
  | number (n : Number)
  | flag (b : Bool)
  deriving DecidableEq, Repr

namespace Quantity

/-- The number that a quantity counts as. -/
def value : Quantity → Number
  | .number n => n
  | .flag b => .int (if b then 1 else 0)

def toJson : Quantity → Json
  | .number n => .num n
  | .flag b => .bool b

end Quantity

/-- How often to try and how long to pause, in milliseconds. The multiplier is looked at only when
a delay is multiplied by it. -/
structure RetryOptions where
  maxAttempts : Quantity
  delayMs : Quantity
  multiplier : Json
  maxDelayMs : Quantity
  deriving DecidableEq, Repr

/-- What is wrong with options: a bound is broken, a value cannot be compared with one, or there
is no option of a name. -/
inductive RetryOptions.Fault where
  | noAttempt
  | negativeDelay
  | incomparable (value : Json)
  | unknownOption (name : String)
  deriving DecidableEq, Repr

/-- The message about what is wrong with options. -/
def RetryOptions.Fault.message : RetryOptions.Fault → String
  | .noAttempt => "max_attempts must be at least 1"
  | .negativeDelay => "delays must not be negative"
  | .incomparable value =>
    s!"'<' not supported between instances of '{value.kindName}' and 'int'"
  | .unknownOption name =>
    s!"RetryOptions.__init__() got an unexpected keyword argument '{name}'"

namespace RetryOptions

/-- Three attempts, a second of delay that doubles up to ten. -/
def standard : RetryOptions :=
  ⟨.number (.int 3), .number (.int 1000), .num (.float (.ofInt 2)), .number (.int 10000)⟩

/-- A value as a quantity, which can be compared. -/
def quantity : Json → Except Fault Quantity
  | .num n => .ok (.number n)
  | .bool b => .ok (.flag b)
  | value => .error (.incomparable value)

/-- A value as a quantity that is not below a bound. -/
def quantityFrom (bound : Int) (fault : Fault) (value : Json) : Except Fault Quantity := do
  let q ← quantity value
  if q.value.lt (.int bound) then .error fault else .ok q

/-- The options of four values, provided there is an attempt and no delay is negative. -/
def check (maxAttempts delayMs multiplier maxDelayMs : Json) : Except Fault RetryOptions := do
  let maxAttempts ← quantityFrom 1 .noAttempt maxAttempts
  let delayMs ← quantityFrom 0 .negativeDelay delayMs
  let maxDelayMs ← quantityFrom 0 .negativeDelay maxDelayMs
  return ⟨maxAttempts, delayMs, multiplier, maxDelayMs⟩

/-- The names of the options. -/
def names : List String := ["max_attempts", "delay_ms", "backoff_multiplier", "max_delay_ms"]

def toJson (options : RetryOptions) : Json := .obj [
  ("max_attempts", options.maxAttempts.toJson),
  ("delay_ms", options.delayMs.toJson),
  ("backoff_multiplier", options.multiplier),
  ("max_delay_ms", options.maxDelayMs.toJson)]

/-- The options that members describe on top of the standard ones. -/
def ofMembers (members : Json.Members) : Except Fault RetryOptions :=
  match members.find? fun member => !names.contains member.1 with
  | some (name, _) => .error (.unknownOption name)
  | none =>
    let part := fun name => (members.lookup name <|> standard.toJson.get? name).getD .null
    check (part "max_attempts") (part "delay_ms") (part "backoff_multiplier") (part "max_delay_ms")

end RetryOptions

/-- The number of the current attempt, from one, and the delay in milliseconds that follows its
failure. -/
structure Backoff where
  attempt : Nat
  delay : Number
  deriving DecidableEq, Repr

namespace Backoff

/-- The backoff of the first attempt; its delay is a binary64 value. -/
def first (options : RetryOptions) : Except ArithmeticFault Backoff := do
  let delay ← options.delayMs.value.toBinary64
  return ⟨1, .float delay⟩

/-- What a failed attempt leads to: the failure stands, the call ends by a fault in computing the
delay, or the next attempt follows a pause. -/
inductive Decision where
  | giveUp
  | stop (fault : ArithmeticFault)
  | pause (seconds : Binary64)
  deriving DecidableEq, Repr

/-- The report on the last attempt. -/
def exhaustedEntry (options : RetryOptions) (message : String) : LogEntry :=
  .error "retry" ("Retry failed after max attempts: attempts=" ++
    options.maxAttempts.toJson.plainText ++ " error=" ++ message)

/-- The report on an attempt that is followed by another after `whole` milliseconds. -/
def retryingEntry (attempt : Nat) (whole : Int) (message : String) : LogEntry :=
  .warning "retry"
    s!"Retry attempt {attempt} failed, retrying in {whole}ms: {message}"

/-- What the failure of the current attempt leads to, and the reports on it. -/
def decide (options : RetryOptions) (backoff : Backoff) (message : String) :
    Decision × List LogEntry :=
  if options.maxAttempts.value.le (.int backoff.attempt) then
    (.giveUp, [exhaustedEntry options message])
  else
    match backoff.delay.wholePart with
    | .error fault => (.stop fault, [])
    | .ok whole =>
      let entries := [retryingEntry backoff.attempt whole message]
      match backoff.delay.thousandth with
      | .error fault => (.stop fault, entries)
      | .ok seconds => (.pause seconds, entries)

/-- A value as the factor of a delay. -/
def factor : Json → Except ArithmeticFault Number
  | .num n => .ok n
  | .bool b => .ok (Quantity.flag b).value
  | .str _ | .arr _ => .error .repetition
  | value => .error (.noFactor value.kindName)

/-- The backoff of the next attempt. -/
def next (options : RetryOptions) (backoff : Backoff) : Except ArithmeticFault Backoff := do
  let grown ← backoff.delay.mul (← factor options.multiplier)
  return ⟨backoff.attempt + 1, grown.least options.maxDelayMs.value⟩

end Backoff

/-- Where a retried call stands: an attempt is under way, or a pause before the next one. -/
inductive Retrying where
  | trying (backoff : Backoff)
  | pausing (backoff : Backoff)
  deriving DecidableEq, Repr

end Automation
