import Automation.Number.Decimal

/-!
# Numbers

A number is an unbounded integer or a binary64 value, and keeps which of the two it is: `1` and
`1.0` are written differently. Comparisons place both on the extended real line exactly, so no
integer is ever rounded on the way.

## Main definitions

* `Number` — integers and binary64 values.
* `Place` — the extended rational line on which numbers are compared.
* `Number.le`, `Number.eqv` — comparison by exact value; NaN compares with nothing.
-/

namespace Automation

/-- An integer or a binary64 value. -/
inductive Number where
  | int (i : Int)
  | float (x : Binary64)
  deriving DecidableEq, Repr, Inhabited

/-- A point of the rational line extended by two infinities. -/
inductive Place where
  | least
  | rational (q : Rat)
  | greatest
  deriving DecidableEq

/-- The order of the extended line. -/
def Place.le : Place → Place → Bool
  | .least, _ => true
  | _, .greatest => true
  | .rational p, .rational q => decide (p ≤ q)
  | .rational _, .least => false
  | .greatest, .least => false
  | .greatest, .rational _ => false

namespace Binary64

/-- Where a number lies on the extended line; NaN lies nowhere. -/
def place? : Binary64 → Option Place
  | .finite s m e => (toRat? (.finite s m e)).map .rational
  | .infinite negative => some (if negative then .least else .greatest)
  | .nan => none

end Binary64

namespace Number

/-- Where a number lies on the extended line; NaN lies nowhere. -/
def place? : Number → Option Place
  | .int i => some (.rational i)
  | .float x => x.place?

/-- The order by exact value. -/
def le (a b : Number) : Bool :=
  match a.place?, b.place? with
  | some p, some q => p.le q
  | _, _ => false

/-- Equality by exact value. -/
def eqv (a b : Number) : Bool :=
  match a.place?, b.place? with
  | some p, some q => decide (p = q)
  | _, _ => false

/-- The strict order by exact value. -/
def lt (a b : Number) : Bool := a.le b && !a.eqv b

def isNaN : Number → Bool
  | .int _ => false
  | .float x => x = .nan

/-- Whether the number counts as true: everything but zero does. -/
def isTruthy : Number → Bool
  | .int i => i ≠ 0
  | .float x => !x.isZero

/-- The plain text of a number. -/
def text : Number → String
  | .int i => toString i
  | .float x => x.write .plain

/-- The text of a number inside JSON. -/
def jsonText : Number → String
  | .int i => toString i
  | .float x => x.write .json

end Number

end Automation
