/-!
# Binary64 arithmetic

The 64-bit binary floating-point format, with exact integers underneath: a finite value is
`significand * 2 ^ exponent` with a sign, and every operation forms its exact rational result
and rounds it once, to nearest with ties to even. Nothing here uses the machine's own floating
point, so every value can be computed inside a proof.

## Main definitions

* `Binary64` — signed finite values, signed infinities and one NaN.
* `Binary64.ofQuotient` — the value nearest to a quotient of natural numbers.
* `Binary64.toRat?` — the exact value of a finite number.
-/

namespace Automation

/-- A binary64 datum. A finite value is `significand * 2 ^ exponent`, negated when `negative`;
both zeros have significand `0`. -/
inductive Binary64 where
  | finite (negative : Bool) (significand : Nat) (exponent : Int)
  | infinite (negative : Bool)
  | nan
  deriving DecidableEq, Repr, Inhabited

namespace Binary64

/-- The exponent of the smallest positive value. -/
def minExponent : Int := -1074

/-- The exponent of the largest finite value. -/
def maxExponent : Int := 971

/-- The zero of a sign. -/
def zero (negative : Bool) : Binary64 := .finite negative 0 minExponent

/-- The natural number nearest to `num / den`; a half goes to the even neighbour. -/
def roundHalfEven (num den : Nat) : Nat :=
  let quotient := num / den
  let twice := 2 * (num % den)
  if twice < den then quotient
  else if den < twice then quotient + 1
  else quotient + quotient % 2

/-- The quotient `num / den` in units of `2 ^ exponent`, as a fraction of natural numbers. -/
def inUnits (num den : Nat) (exponent : Int) : Nat × Nat :=
  (num * Nat.pow 2 (-exponent).toNat, den * Nat.pow 2 exponent.toNat)

/-- The exponent at which `num / den` has at most 53 bits, and as many as the format allows. -/
def unitExponent (num den : Nat) : Int :=
  let guess := max minExponent ((num.log2 : Int) - (den.log2 : Int) - 53)
  let (n, d) := inUnits num den guess
  if Nat.pow 2 53 ≤ n / d then guess + 1 else guess

/-- The value nearest to `num / den` with the given sign: a tie goes to the even significand,
a value past the largest finite one is infinite. The denominator is positive. -/
def ofQuotient (negative : Bool) (num den : Nat) : Binary64 :=
  if num = 0 then zero negative
  else
    let exponent := unitExponent num den
    let (n, d) := inUnits num den exponent
    let significand := roundHalfEven n d
    let (significand, exponent) :=
      if significand = Nat.pow 2 53 then (Nat.pow 2 52, exponent + 1) else (significand, exponent)
    if maxExponent < exponent then .infinite negative
    else .finite negative significand exponent

/-- The value nearest to an integer. -/
def ofInt (i : Int) : Binary64 := ofQuotient (i < 0) i.natAbs 1

/-- The value nearest to `digits * 10 ^ exponent`. Exponents far outside the format's range are
settled by the length of `digits` alone, without forming the power. -/
def ofDecimal (negative : Bool) (digits : Nat) (exponent : Int) : Binary64 :=
  if digits = 0 then zero negative
  else if 400 < exponent then .infinite negative
  else if (digits.log2 : Int) + 1 + 3 * exponent < -1200 then zero negative
  else ofQuotient negative (digits * Nat.pow 10 exponent.toNat) (Nat.pow 10 (-exponent).toNat)

/-- The exact value of a finite number. -/
def toRat? : Binary64 → Option Rat
  | .finite negative significand exponent =>
    let (num, den) := inUnits significand 1 (-exponent)
    some (mkRat (if negative then -(num : Int) else num) den)
  | .infinite _ | .nan => none

def isFinite : Binary64 → Bool
  | .finite .. => true
  | .infinite _ | .nan => false

/-- Whether the number is a zero of either sign. -/
def isZero : Binary64 → Bool
  | .finite _ significand _ => significand = 0
  | .infinite _ | .nan => false

/-- The rounded product. An infinity times zero is NaN. -/
def mul : Binary64 → Binary64 → Binary64
  | .finite s m e, .finite t n f =>
    let (num, den) := inUnits (m * n) 1 (-(e + f))
    ofQuotient (s != t) num den
  | .infinite s, .infinite t => .infinite (s != t)
  | .infinite s, .finite t n _ => if n = 0 then .nan else .infinite (s != t)
  | .finite s m _, .infinite t => if m = 0 then .nan else .infinite (s != t)
  | .nan, _ | _, .nan => .nan

/-- The rounded quotient by a positive integer. -/
def divNat (x : Binary64) (k : Nat) : Binary64 :=
  match x with
  | .finite s m e =>
    let (num, den) := inUnits m k (-e)
    ofQuotient s num den
  | .infinite s => .infinite s
  | .nan => .nan

/-- The integer part, toward zero, of a finite number. -/
def truncate? : Binary64 → Option Int
  | .finite negative significand exponent =>
    let (num, den) := inUnits significand 1 (-exponent)
    let magnitude : Int := (num / den : Nat)
    some (if negative then -magnitude else magnitude)
  | .infinite _ | .nan => none

/-- The integer that a finite number without a fraction equals. -/
def toInt? (x : Binary64) : Option Int := do
  let q ← x.toRat?
  if q.den = 1 then some q.num else none

end Binary64

end Automation
