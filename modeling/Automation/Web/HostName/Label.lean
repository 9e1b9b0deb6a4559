import Automation.Text.Composition
import Automation.Text.Quoted
import Automation.Web.HostName.Direction
import Automation.Web.HostName.Neighbour
import Automation.Web.HostName.Permitted

/-!
# Labels of host names

A label is what stands between two dots of a host name. It may be written in any script, as long
as it is composed, holds permitted characters only, has its joiners and punctuation next to the
right neighbours, and is written in one direction. Labels are given by their code points.

## Main definitions

* `HostName.Fault` — what is wrong with a label or a host name.
* `HostName.checkLabel` — whether a label keeps the rules.
-/

namespace Automation.HostName

/-- What is wrong with a label or a host name. Positions count from one. -/
inductive Fault where
  | emptyName
  | nameTooLong
  | emptyLabel
  | labelTooLong
  | notComposed
  | innerHyphens
  | outerHyphen
  | markInFront
  /-- A character that may not stand in a label. -/
  | character (n position : Nat) (label : List Nat)
  /-- A mark of punctuation in the wrong place. -/
  | punctuation (n position : Nat) (label : List Nat)
  /-- A joiner in the wrong place, or behind a character that nothing is known about. -/
  | joiner (n position : Nat) (label : List Nat)
  | unknownDirection (position : Nat) (label : List Nat)
  | directionInFront (label : List Nat)
  | againstRightToLeft (position : Nat)
  | againstLeftToRight (position : Nat)
  | mixedNumbers
  | directionAtEnd
  /-- An ASCII form of nothing. -/
  | noContent
  /-- An ASCII form with a hyphen at its end. -/
  | hyphenAtEnd
  /-- An ASCII form that stands for no label. -/
  | unreadable
  deriving DecidableEq, Repr

/-- The name of a code point, of at least four hexadecimal digits. -/
def pointName (n : Nat) : String :=
  let digits := (Nat.toDigits 16 n).map Char.toUpper
  "U+" ++ String.ofList (List.replicate (4 - digits.length) '0' ++ digits)

/-- The message about a fault. -/
def Fault.message : Fault → String
  | .emptyName => "Empty domain"
  | .nameTooLong => "Domain too long"
  | .emptyLabel => "Empty Label"
  | .labelTooLong => "Label too long"
  | .notComposed => "Label must be in Normalization Form C"
  | .innerHyphens => "Label has disallowed hyphens in 3rd and 4th position"
  | .outerHyphen => "Label must not start or end with a hyphen"
  | .markInFront => "Label begins with an illegal combining character"
  | .character n position label => s!"Codepoint {pointName n} at position {position} of " ++
    Text.quotedPoints label ++ " not allowed"
  | .punctuation n position label =>
    s!"Codepoint {pointName n} not allowed at position {position} in " ++ Text.quotedPoints label
  | .joiner n position label =>
    s!"Unknown codepoint adjacent to joiner {pointName n} at position {position} in " ++
      Text.quotedPoints label
  | .unknownDirection position label =>
    "Unknown directionality in label " ++ Text.quotedPoints label ++ s!" at position {position}"
  | .directionInFront label => "First codepoint in label " ++ Text.quotedPoints label ++
    " must be directionality L, R or AL"
  | .againstRightToLeft position =>
    s!"Invalid direction for codepoint at position {position} in a right-to-left label"
  | .againstLeftToRight position =>
    s!"Invalid direction for codepoint at position {position} in a left-to-right label"
  | .mixedNumbers => "Can not mix numeral types in a right-to-left label"
  | .directionAtEnd => "Label ends with illegal codepoint directionality"
  | .noContent => "Malformed A-label, no Punycode eligible content found"
  | .hyphenAtEnd => "A-label must not end with a hyphen"
  | .unreadable => "Invalid A-label"

/-- The longest host name as it is given, a dot at its end included. -/
def maxGiven : Nat := 254

/-! ## Joiners and punctuation -/

/-- The two joiners: one that keeps letters apart, and one that binds them. -/
def nonJoiner : Nat := 0x200C

def zeroWidthJoiner : Nat := 0x200D

/-- The class of the marks that silence the vowel of a letter. -/
def silencerClass : Nat := 9

/-- Whether a non-joiner stands between two letters that would be joined otherwise; the text in
front is given from its end. -/
def keepsApart (before after : List Nat) : Bool :=
  ((before.dropWhile isTransparent).head?.any joinsAhead) &&
    ((after.dropWhile isTransparent).head?.any joinsBack)

/-- Whether a joiner is in its place: behind a letter without its vowel, or where it keeps letters
apart. -/
def joinerFits (before : List Nat) (n : Nat) (after : List Nat) : Bool :=
  match before.head? with
  | none => false
  | some last => directionOf last ≠ .unknown &&
      (Text.combiningClass last = silencerClass || n = nonJoiner && keepsApart before after)

/-- The digits of two scripts that do not go together. -/
def isArabicDigit (n : Nat) : Bool := 0x660 ≤ n && n ≤ 0x669

def isPersianDigit (n : Nat) : Bool := 0x6F0 ≤ n && n ≤ 0x6F9

/-- Punctuation with its places, the middle dots first; anything else is no punctuation of
labels. -/
def punctuationFits? (before : List Nat) (n : Nat) (after : List Nat) : Option Bool :=
  let others := before ++ after
  if n = 0xB7 then some (before.head? = some 'l'.toNat && after.head? = some 'l'.toNat)
  else if n = 0x30FB then some (others.any isJapanese)
  else if n = 0x375 then some (after.head?.any isGreek)
  else if n = 0x5F3 ∨ n = 0x5F4 then some (before.head?.any isHebrew)
  else if isArabicDigit n then some (!others.any isPersianDigit)
  else if isPersianDigit n then some (!others.any isArabicDigit)
  else none

/-- Whether a character may stand where it does; the text in front is given from its end. -/
def checkCharacter (label before : List Nat) (n : Nat) (after : List Nat) : Except Fault Unit :=
  let position := before.length + 1
  if isPermitted n then .ok ()
  else if n = nonJoiner ∨ n = zeroWidthJoiner then
    if joinerFits before n after then .ok () else .error (.joiner n position label)
  else
    match punctuationFits? before n after with
    | some true => .ok ()
    | some false => .error (.punctuation n position label)
    | none => .error (.character n position label)

/-- Whether all characters behind the text in front may stand where they do. -/
def checkCharacters (label before : List Nat) : List Nat → Except Fault Unit
  | [] => .ok ()
  | n :: rest => do
    checkCharacter label before n rest
    checkCharacters label (n :: before) rest

/-! ## Directions -/

/-- The directions that only occur in labels written from right to left. -/
def Direction.turns (d : Direction) : Bool :=
  d = .rightToLeft || d = .arabicLetter || d = .arabicNumber

/-- Whether a direction may occur in a label written from right to left. -/
def Direction.goesLeft (d : Direction) : Bool := d ≠ .leftToRight && d ≠ .unknown

/-- Whether a direction may occur in a label written from left to right. -/
def Direction.goesRight (d : Direction) : Bool := !d.turns && d ≠ .unknown

/-- The numbers among the directions. -/
def Direction.isNumber (d : Direction) : Bool := d = .arabicNumber || d = .europeanNumber

/-- Whether a label written from right to left may end so, marks apart. -/
def Direction.endsLeft (d : Direction) : Bool := d.turns || d = .europeanNumber

/-- Whether a label written from left to right may end so, marks apart. -/
def Direction.endsRight (d : Direction) : Bool := d = .leftToRight || d = .europeanNumber

/-- Whether the directions behind some characters may occur in a label written from right to left;
`number?` is the kind of numbers in it so far. -/
def checkLeft (number? : Option Direction) (position : Nat) :
    List Direction → Except Fault Unit
  | [] => .ok ()
  | d :: rest =>
    if !d.goesLeft then .error (.againstRightToLeft position)
    else if d.isNumber && number?.any (· ≠ d) then .error .mixedNumbers
    else checkLeft (if d.isNumber then some d else number?) (position + 1) rest

/-- Whether a label is written in one direction. One without anything that is written from right
to left is. -/
def checkDirections (label : List Nat) : Except Fault Unit :=
  let directions := label.map directionOf
  let last? := (directions.reverse.dropWhile (· = .mark)).head?
  match directions.findIdx? (· = .unknown), directions with
  | some i, _ => .error (.unknownDirection (i + 1) label)
  | none, [] => .ok ()
  | none, first :: _ =>
    if !directions.any (·.turns) then .ok ()
    else if first = .rightToLeft ∨ first = .arabicLetter then do
      checkLeft none 1 directions
      if last?.any (·.endsLeft) then .ok () else .error .directionAtEnd
    else if first = .leftToRight then
      match directions.findIdx? fun d => !d.goesRight with
      | some i => .error (.againstLeftToRight (i + 1))
      | none => if last?.any (·.endsRight) then .ok () else .error .directionAtEnd
    else .error (.directionInFront label)

/-! ## Labels -/

/-- Whether a label keeps the rules. -/
def checkLabel (label : List Nat) : Except Fault Unit :=
  let hyphen := '-'.toNat
  if label.isEmpty then .error .emptyLabel
  else if maxGiven < label.length then .error .labelTooLong
  else if !Text.isComposed label then .error .notComposed
  else if (label.drop 2).take 2 = [hyphen, hyphen] then .error .innerHyphens
  else if label.head? = some hyphen ∨ label.getLast? = some hyphen then .error .outerHyphen
  else if label.head?.any isMark then .error .markInFront
  else do
    checkCharacters label [] label
    checkDirections label

end Automation.HostName
