import Automation.Number.Binary64

/-!
# Decimal text of binary64 numbers

A finite number is written with the fewest significant digits that read back as the same number
and, among those, with the nearest to its exact value. `Binary64.Style` holds what a text
format decides on its own: where positional notation ends and how the special values are spelt.

## Main definitions

* `decimalDigits` — the decimal digits of a natural number.
* `Binary64.shortestDecimal` — digits and exponent of the shortest decimal that reads back.
* `Binary64.write` — the text of a number in a notation.
-/

namespace Automation

/-- The decimal digits of `n`, most significant first, with fuel for the count of digits. -/
def decimalDigitsAux : Nat → Nat → List Nat → List Nat
  | 0, _, acc => acc
  | fuel + 1, n, acc =>
    if n < 10 then n :: acc else decimalDigitsAux fuel (n / 10) (n % 10 :: acc)

/-- The decimal digits of `n`, most significant first; zero has one digit. -/
def decimalDigits (n : Nat) : List Nat := decimalDigitsAux (n.log2 + 1) n []

/-- The character of a decimal digit. -/
def digitChar (d : Nat) : Char := Char.ofNat ('0'.toNat + d)

/-- The decimal text of a natural number. -/
def decimalText (n : Nat) : String := String.ofList ((decimalDigits n).map digitChar)

namespace Binary64

/-- The exponent `p` with `10 ^ (p - 1) ≤ num / den < 10 ^ p`, for a positive quotient that is
no negative power of ten. -/
def decimalPoint (num den : Nat) : Int :=
  if den ≤ num then (decimalDigits (num / den)).length
  else 1 - (decimalDigits (den / num)).length

/-- The two neighbours of `num / den` among the decimals with `count` digits, nearer first, as
digits and exponent. -/
def decimalNeighbours (num den : Nat) (count : Nat) : List (Nat × Int) :=
  let exponent := decimalPoint num den - count
  let n := num * Nat.pow 10 (-exponent).toNat
  let d := den * Nat.pow 10 exponent.toNat
  let below := n / d
  let twice := 2 * (n % d)
  if twice < d ∨ twice = d ∧ below % 2 = 0 then [(below, exponent), (below + 1, exponent)]
  else [(below + 1, exponent), (below, exponent)]

/-- Seventeen significant digits always read back. -/
def maxDigits : Nat := 17

/-- The decimal `digits * 10 ^ exponent` with the fewest digits that reads back as the positive
value `significand * 2 ^ exponent`; of two with as few digits, the nearer one. -/
def shortestDecimal (significand : Nat) (exponent : Int) : Nat × Int :=
  let (num, den) := inUnits significand 1 (-exponent)
  let candidates := (List.range maxDigits).flatMap fun k => decimalNeighbours num den (k + 1)
  (candidates.find? fun (digits, power) =>
    ofDecimal false digits power = .finite false significand exponent).getD (0, 0)

/-- What a text format decides about numbers. -/
structure Style where
  /-- The smallest decimal exponent written positionally. -/
  leastPositional : Int
  /-- The first decimal exponent written with an exponent mark. -/
  firstScientific : Int
  /-- The texts of infinity (to follow the sign) and of NaN. -/
  infinity : String
  nan : String

/-- The usual notation: positional from `0.0001` up to below `10 ^ 16`, an exponent of at least
two digits with its sign otherwise. -/
def Style.plain : Style := ⟨-4, 16, "inf", "nan"⟩

/-- The notation of JSON text, which spells the special values out. -/
def Style.json : Style := ⟨-4, 16, "Infinity", "NaN"⟩

/-- A whole number keeps a fraction of one zero in positional notation. -/
def positional (digits : List Nat) (point : Int) : List Char :=
  let cs := digits.map digitChar
  if point ≤ 0 then '0' :: '.' :: List.replicate (-point).toNat '0' ++ cs
  else
    let whole := point.toNat
    if cs.length ≤ whole then cs ++ List.replicate (whole - cs.length) '0' ++ ['.', '0']
    else cs.take whole ++ '.' :: cs.drop whole

/-- One digit before the point, and the exponent with its sign and at least two digits. -/
def scientific (digits : List Nat) (exponent : Int) : List Char :=
  let mantissa := match digits.map digitChar with
    | [] => ['0']
    | [d] => [d]
    | d :: rest => d :: '.' :: rest
  let magnitude := (decimalDigits exponent.natAbs).map digitChar
  let padded := if magnitude.length < 2 then '0' :: magnitude else magnitude
  mantissa ++ 'e' :: (if exponent < 0 then '-' else '+') :: padded

/-- The digits of a positive decimal without trailing zeros, and the place of its point: the
value is `0.d₁d₂… * 10 ^ point`. -/
def significantDigits (digits : Nat) (exponent : Int) : List Nat × Int :=
  let ds := decimalDigits digits
  (ds.reverse.dropWhile (· = 0) |>.reverse, exponent + ds.length)

/-- The text of a number. -/
def write (style : Style) : Binary64 → String
  | .nan => style.nan
  | .infinite negative => (if negative then "-" else "") ++ style.infinity
  | .finite negative significand exponent =>
    let body :=
      if significand = 0 then ['0', '.', '0']
      else
        let (digits, power) := shortestDecimal significand exponent
        let (ds, point) := significantDigits digits power
        if style.leastPositional ≤ point - 1 ∧ point - 1 < style.firstScientific then
          positional ds point
        else scientific ds (point - 1)
    String.ofList (if negative then '-' :: body else body)

end Binary64

end Automation
