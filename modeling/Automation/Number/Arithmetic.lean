import Automation.Number

/-!
# Arithmetic on numbers

Products, quotients and conversions of numbers. Two integers are multiplied exactly; as soon as a
binary64 value takes part, the other factor is rounded to binary64 first. An operation without an
answer names its fault.

## Main definitions

* `ArithmeticFault` — why an operation has no answer.
* `Number.toBinary64`, `Number.mul`, `Number.thousandth`, `Number.wholePart` — the operations.
-/

namespace Automation

/-- Why an operation on numbers has no answer. -/
inductive ArithmeticFault where
  | integerTooLarge
  | quotientTooLarge
  | wholePartOfInfinity
  | wholePartOfNaN
  /-- A text or a list as a factor, which could only be repeated as often as an integer says. -/
  | repetition
  /-- A factor of a kind that has no product. -/
  | noFactor (kind : String)
  deriving DecidableEq, Repr

/-- The message about a fault. -/
def ArithmeticFault.message : ArithmeticFault → String
  | .integerTooLarge => "int too large to convert to float"
  | .quotientTooLarge => "integer division result too large for a float"
  | .wholePartOfInfinity => "cannot convert float infinity to integer"
  | .wholePartOfNaN => "cannot convert float NaN to integer"
  | .repetition => "can't multiply sequence by non-int of type 'float'"
  | .noFactor kind => s!"unsupported operand type(s) for *: 'float' and '{kind}'"

/-- A rounded result that has to be finite. -/
def Binary64.finiteOr (fault : ArithmeticFault) (x : Binary64) : Except ArithmeticFault Binary64 :=
  if x.isFinite then .ok x else .error fault

namespace Number

/-- The number as a binary64 value; an integer past the largest one has none. -/
def toBinary64 : Number → Except ArithmeticFault Binary64
  | .int i => (Binary64.ofInt i).finiteOr .integerTooLarge
  | .float x => .ok x

/-- The product: exact for integers, rounded otherwise. -/
def mul : Number → Number → Except ArithmeticFault Number
  | .int i, .int j => .ok (.int (i * j))
  | a, b => do
    let x ← a.toBinary64
    let y ← b.toBinary64
    return .float (x.mul y)

/-- A thousandth of the number, rounded once. -/
def thousandth : Number → Except ArithmeticFault Binary64
  | .int i => (Binary64.ofQuotient (i < 0) i.natAbs 1000).finiteOr .quotientTooLarge
  | .float x => .ok (x.divNat 1000)

/-- The part in front of the point. -/
def wholePart : Number → Except ArithmeticFault Int
  | .int i => .ok i
  | .float x =>
    match x.truncate? with
    | some i => .ok i
    | none => .error (if x = .nan then .wholePartOfNaN else .wholePartOfInfinity)

/-- The smaller of two numbers; the first one unless the second is below it. -/
def least (a b : Number) : Number := if b.lt a then b else a

end Number

end Automation
