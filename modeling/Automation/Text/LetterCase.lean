import Automation.Text.LetterCase.Context
import Automation.Text.LetterCase.Runs

/-!
# Letter case

Texts in small letters and in capitals. A letter may have several counterparts, and the capital
sigma has another small letter at the end of a word.

## Main definitions

* `Text.lower`, `Text.upper` — a text in one letter case.
-/

namespace Automation.Text

/-- The capital sigma. -/
def capitalSigma : Char := 'Σ'

/-- The capital I with a dot, and what it becomes: an i and the dot. -/
def dottedCapital : Char := Char.ofNat 0x130

/-- Whether a word ends between the text in front, which is given from its end, and the text
behind: a letter comes in front and none behind. -/
def endsWord (before after : List Char) : Bool :=
  ((before.dropWhile isCaseIgnorable).head?.any isCased) &&
    !((after.dropWhile isCaseIgnorable).head?.any isCased)

/-- The small letters of a character between the text in front, which is given from its end, and
the text behind. -/
def lowerChar (before : List Char) (c : Char) (after : List Char) : List Char :=
  if c = capitalSigma then [if endsWord before after then 'ς' else 'σ']
  else if c = dottedCapital then ['i', Char.ofNat 0x307]
  else [Char.ofNat (counterpart capitalRuns c.toNat)]

/-- A text in small letters behind the text in front. -/
def lowerFrom (before : List Char) : List Char → List Char
  | [] => []
  | c :: rest => lowerChar before c rest ++ lowerFrom (c :: before) rest

/-- The capitals of a character. -/
def upperChar (c : Char) : List Char :=
  match longCapitals.lookup c.toNat with
  | some capitals => capitals.map Char.ofNat
  | none => [Char.ofNat (counterpart smallRuns c.toNat)]

/-- A text in small letters. -/
def lower (s : String) : String := String.ofList (lowerFrom [] s.toList)

/-- A text in capitals. -/
def upper (s : String) : String := String.ofList (s.toList.flatMap upperChar)

end Automation.Text
