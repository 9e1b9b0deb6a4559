import Automation.Text.Printable
import Automation.Text.Surrogate

/-!
# Quoted text

The quoted form of a text in diagnostics: single quotes, or double quotes when the text holds a
single quote and no double one; what is not printable is written as a numbered escape.

## Main definitions

* `Text.quoted`, `Text.quotedPoints` — the quoted form of a text.
* `Text.hexText` — hexadecimal text of a fixed width.
-/

namespace Automation.Text

/-- The lower-case character of a hexadecimal digit. -/
def hexChar (d : Nat) : Char :=
  if d < 10 then Char.ofNat ('0'.toNat + d) else Char.ofNat ('a'.toNat + (d - 10))

/-- The last `width` hexadecimal digits of a number. -/
def hexText : Nat → Nat → List Char
  | 0, _ => []
  | width + 1, n => hexText width (n / 16) ++ [hexChar (n % 16)]

/-- The escape of a code point that is not printable: two, four or eight digits. -/
def numberedEscape (n : Nat) : List Char :=
  if n < 0x100 then '\\' :: 'x' :: hexText 2 n
  else if n < 0x10000 then '\\' :: 'u' :: hexText 4 n
  else '\\' :: 'U' :: hexText 8 n

/-- A character inside the quotes given. -/
def quotedChar (quote c : Char) : List Char :=
  if c = quote ∨ c = '\\' then ['\\', c]
  else if c = '\n' then ['\\', 'n']
  else if c = '\r' then ['\\', 'r']
  else if c = '\t' then ['\\', 't']
  else if isPrintable c then [c]
  else numberedEscape c.toNat

/-- A code point inside the quotes given; one that is no character is not printable. -/
def quotedPoint (quote : Char) (n : Nat) : List Char :=
  if n.isValidChar then quotedChar quote (Char.ofNat n) else numberedEscape n

/-- The quotation mark for a text: the double one just when that saves escaping. -/
def quoteFor (cs : List Char) : Char :=
  if cs.contains '\'' && !cs.contains '"' then '"' else '\''

/-- The quoted form of a text that is given by its code points. -/
def quotedPoints (points : List Nat) : String :=
  let quote := quoteFor (points.map Char.ofNat)
  String.ofList (quote :: points.flatMap (quotedPoint quote) ++ [quote])

/-- The quoted form of a text. -/
def quoted (s : String) : String := quotedPoints (points s.toList)

end Automation.Text
