import Automation.Number.Reader
import Automation.Time.Timestamp

/-!
# Reading timestamps

A timestamp is read from an ISO 8601 date or date-time, or from a number of seconds since 1970,
which counts as milliseconds past twenty billion. A text without an offset is on the clock of
Greenwich.

## Main definitions

* `Timestamp.ofText` — the timestamp that a text spells.
* `Timestamp.ofInt`, `Timestamp.ofFloat` — the timestamp of a number.
* `Timestamp.ofJson` — the timestamp that a value stands for, or why it stands for none.
-/

namespace Automation.Timestamp

/-- Why a value is no timestamp. -/
inductive Fault where
  /-- A text that is neither a date, nor a date-time, nor a number in range. -/
  | unreadable
  /-- A number out of range. -/
  | outOfRange
  /-- A time in the year zero, which the calendar does not have. -/
  | yearZero
  /-- A value of another kind. -/
  | wrongKind
  deriving DecidableEq, Repr

/-- The number of two digits. -/
def twoDigits? (a b : Char) : Option Nat := do
  let a ← Text.asciiDigit? a
  let b ← Text.asciiDigit? b
  some (10 * a + b)

/-- A date in front of a text, and the rest. -/
def takeDate : List Char → Option (Date × List Char)
  | y1 :: y2 :: y3 :: y4 :: '-' :: m1 :: m2 :: '-' :: d1 :: d2 :: rest => do
    let century ← twoDigits? y1 y2
    let year ← twoDigits? y3 y4
    let month ← twoDigits? m1 m2
    let day ← twoDigits? d1 d2
    let date : Date := ⟨(100 * century + year : Nat), month, day⟩
    if date.isValid then some (date, rest) else none
  | _ => none

/-- The microseconds that the digits of a fraction stand for; digits past the sixth are cut. -/
def fractionMicros (digits : List Nat) : Nat :=
  let kept := digits.take 6
  Text.ofDigits kept * Nat.pow 10 (6 - kept.length)

/-- The fraction of a second in front of a text, in microseconds, and the rest. -/
def takeFraction : List Char → Option (Nat × List Char)
  | c :: rest =>
    if c = '.' ∨ c = ',' then
      match Json.spanDigits rest with
      | ([], _) => none
      | (digits, rest') => some (fractionMicros digits, rest')
    else some (0, c :: rest)
  | [] => some (0, [])

/-- The seconds in front of a text, if a colon announces them, in microseconds, and the rest. -/
def takeSeconds : List Char → Option (Nat × List Char)
  | ':' :: s1 :: s2 :: rest => do
    let second ← twoDigits? s1 s2
    if 59 < second then none
    else
      let (micros, rest') ← takeFraction rest
      some (second * 1000000 + micros, rest')
  | ':' :: _ => none
  | rest => some (0, rest)

/-- A time of day in front of a text, in microseconds, and the rest. -/
def takeTime : List Char → Option (Nat × List Char)
  | h1 :: h2 :: ':' :: m1 :: m2 :: rest => do
    let hour ← twoDigits? h1 h2
    let minute ← twoDigits? m1 m2
    if 23 < hour ∨ 59 < minute then none
    else
      let (micros, rest') ← takeSeconds rest
      some ((hour * 60 + minute) * 60000000 + micros, rest')
  | _ => none

/-- The sign of an offset; the mathematical minus sign counts as one. -/
def offsetSign? (c : Char) : Option Int :=
  if c = '+' then some 1
  else if c = '-' ∨ c.toNat = 0x2212 then some (-1)
  else none

/-- The hours and minutes of an offset, in minutes. -/
def offsetMinutes? : List Char → Option Nat
  | [h1, h2, ':', m1, m2] | [h1, h2, m1, m2] => do
    let hours ← twoDigits? h1 h2
    let minutes ← twoDigits? m1 m2
    if minutes < 60 ∧ hours < 24 then some (60 * hours + minutes) else none
  | _ => none

/-- The offset, in seconds, that the end of a text spells; no text is no offset. -/
def readOffset : List Char → Option Int
  | [] => some 0
  | ['Z'] | ['z'] => some 0
  | c :: rest => do
    let sign ← offsetSign? c
    let minutes ← offsetMinutes? rest
    some (sign * 60 * minutes)

/-- The characters that may stand between a date and a time. -/
def isDateTimeSeparator (c : Char) : Bool := c = 'T' || c = 't' || c = ' ' || c = '_'

/-- An ISO 8601 date or date-time. -/
def readIso (cs : List Char) : Option (Date × Timestamp) := do
  let (date, rest) ← takeDate cs
  let midnight := date.toDays * secondsPerDay * microsPerSecond
  match rest with
  | [] => some (date, ofWall midnight 0)
  | separator :: rest =>
    if isDateTimeSeparator separator then
      let (micros, rest) ← takeTime rest
      let offset ← readOffset rest
      some (date, ofWall (midnight + micros) offset)
    else none

/-- Whether a text that spells a date or date-time says nothing about the offset: behind the date
there is neither a sign nor a letter for Greenwich. -/
def omitsOffset (text : String) : Bool :=
  (readIso text.toList).isSome &&
    (text.toList.drop 10).all fun c => c != 'Z' && c != 'z' && (offsetSign? c).isNone

/-- Counts past this many are milliseconds. -/
def millisWatershed : Int := 20000000000

/-- The first second of the year zero; no count reaches further back. -/
def earliestSecond : Int := -62167219200

/-- The first second of the year one. -/
def firstSecond : Int := -62135596800

/-- The last second of the year 9999. -/
def latestSecond : Int := 253402300799

/-- The largest integer of 64 bits. -/
def maxWord : Int := 9223372036854775807

/-- The timestamp of a count of seconds, or else of milliseconds, and a number of microseconds. -/
def ofCount (inSeconds : Bool) (count : Int) (micros : Nat) : Except Fault Timestamp :=
  let (seconds, extra) := if inSeconds then (count, 0) else (count / 1000, count % 1000 * 1000)
  let total := extra + micros
  let seconds := seconds + total / microsPerSecond
  if seconds < earliestSecond ∨ latestSecond < seconds then .error .outOfRange
  else if seconds < firstSecond then .error .yearZero
  else .ok ⟨seconds * microsPerSecond + total % microsPerSecond, 0⟩

/-- The largest integer below a number, and how many of `parts` equal parts of one lie between the
two, rounded half up from their binary64 value. -/
def floorAndParts (parts : Nat) (q : Rat) : Option (Int × Nat) := do
  let rest := q - q.floor
  let rest := Binary64.ofQuotient false rest.num.natAbs rest.den
  let scaled ← (rest.mul (.ofInt parts)).toRat?
  some (q.floor, (scaled + 1 / 2).floor.toNat)

/-- The timestamp of a binary64 count. -/
def ofFloat (x : Binary64) : Except Fault Timestamp :=
  match x.toRat? with
  | none => .error .outOfRange
  | some q =>
    let inSeconds := decide (q.abs ≤ millisWatershed)
    match floorAndParts (if inSeconds then 1000000 else 1000) q with
    | none => .error .outOfRange
    | some (count, micros) => ofCount inSeconds count micros

/-- The timestamp of an integer count. Integers past 64 bits go through binary64, and one that
no binary64 value is near to is no count at all. -/
def ofInt (i : Int) : Except Fault Timestamp :=
  if -maxWord - 1 ≤ i ∧ i ≤ maxWord then ofCount (decide (i.natAbs ≤ millisWatershed)) i 0
  else match Binary64.ofInt i with
    | .finite .. => .error .outOfRange
    | .infinite _ | .nan => .error .wrongKind

/-- The count that a text spells: digits in front, and an exponent behind a point only. -/
def readCount? (cs : List Char) : Option Number :=
  let behindDigits := (Text.takeSign cs).2.dropWhile Char.isDigit
  if ((Text.takeSign cs).2.head?.any Char.isDigit) &&
      (behindDigits.isEmpty || behindDigits.head? = some '.') then Number.read? cs
  else none

/-- The timestamp that a text spells. -/
def ofText (text : String) : Except Fault Timestamp :=
  match readIso text.toList with
  | some (date, timestamp) => if date.year = 0 then .error .yearZero else .ok timestamp
  | none =>
    let counted := match readCount? text.toList with
      | some (.int i) => ofInt i
      | some (.float x) => ofFloat x
      | none => .error .unreadable
    counted.mapError fun fault => if fault = .yearZero then .yearZero else .unreadable

/-- The timestamp that a value stands for. -/
def ofJson : Json → Except Fault Timestamp
  | .str s => ofText s
  | .num (.int i) => ofInt i
  | .num (.float x) => ofFloat x
  | .null | .bool _ | .arr _ | .obj _ => .error .wrongKind

end Automation.Timestamp
