import Automation.Json.Reader

/-!
# Reading numbers

Numbers as people and configuration files write them: an optional sign, digits with or without a
point, an optional exponent. A number without point and exponent is an integer.

## Main definitions

* `Number.read?` — the number that a text spells.
* `Binary64.read?` — the binary64 value that a text spells, the special values included.
-/

namespace Automation

/-- The number that a text spells. -/
def Number.read? (cs : List Char) : Option Number :=
  let (negative, body) := Text.takeSign cs
  let (whole, rest) := Json.spanDigits body
  let (point, rest) := match rest with
    | '.' :: rest' => (true, rest')
    | _ => (false, rest)
  let (fraction, rest) := if point then Json.spanDigits rest else ([], rest)
  let (exponent, rest) := Json.readExponent rest
  if whole.isEmpty && fraction.isEmpty || !rest.isEmpty then none
  else if !point && exponent.isNone then
    let magnitude : Int := Text.ofDigits whole
    some (.int (if negative then -magnitude else magnitude))
  else
    some (.float (.ofDecimal negative (Text.ofDigits (whole ++ fraction))
      (exponent.getD 0 - fraction.length)))

namespace Binary64

/-- A special value behind its sign, its name in any letter case. -/
def readSpecial? (cs : List Char) : Option Binary64 :=
  let (negative, name) := Text.takeSign cs
  let name := String.ofList (name.map Char.toLower)
  if name = "inf" ∨ name = "infinity" then some (.infinite negative)
  else if name = "nan" then some .nan
  else none

/-- A value in digits or under its special name; a zero keeps its sign. -/
def readPlain? (cs : List Char) : Option Binary64 :=
  match Number.read? cs with
  | some (.int i) => some (.ofDecimal (cs.head? = some '-') i.natAbs 0)
  | some (.float x) => some x
  | none => readSpecial? cs

/-- The value that a text spells, blanks around it; without blanks, single underscores may stand
inside it. -/
def read? (text : String) : Option Binary64 :=
  let cs := text.toList
  readPlain? (Text.trimBlanks Text.isBlank cs) <|> (Text.dropUnderscores? cs).bind readPlain?

end Binary64

end Automation
