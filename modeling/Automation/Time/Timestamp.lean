import Automation.Number
import Automation.Time.Calendar

/-!
# Timestamps

A timestamp is an instant, to the microsecond, together with the offset of the clock that showed
it. Timestamps are ordered by their instants; the offset only matters for the text.

## Main definitions

* `Timestamp` — an instant and the offset of its clock.
* `Timestamp.text`, `Timestamp.naiveText` — ISO 8601 text with and without the offset.
* `Timestamp.utc?` — the same instant on the clock of Greenwich, when its year can be written.
* `Timestamp.epochMillis` — the milliseconds since 1970 as binary64 arithmetic gives them.
-/

namespace Automation

/-- An instant in microseconds since 1 January 1970 at Greenwich, and the offset in seconds of
the clock that showed it. -/
structure Timestamp where
  instant : Int
  offset : Int
  deriving DecidableEq, Repr

namespace Timestamp

def microsPerSecond : Int := 1000000

def secondsPerDay : Int := 86400

/-- What the clock showed, in microseconds since 1 January 1970 of that clock. -/
def wall (t : Timestamp) : Int := t.instant + t.offset * microsPerSecond

/-- The timestamp of a clock that shows `wall`. -/
def ofWall (wall offset : Int) : Timestamp := ⟨wall - offset * microsPerSecond, offset⟩

/-- The date on the clock. -/
def date (t : Timestamp) : Date := Date.ofDays (t.wall / (secondsPerDay * microsPerSecond))

/-- A number in decimal, zeros in front up to a width. -/
def padded (width n : Nat) : String :=
  let text := toString n
  "".pushn '0' (width - text.length) ++ text

/-- The date, the time, and the fraction unless it is zero, as the clock shows them. -/
def naiveText (t : Timestamp) : String :=
  let date := t.date
  let seconds := (t.wall / microsPerSecond % secondsPerDay).toNat
  let micros := (t.wall % microsPerSecond).toNat
  let fraction := if micros = 0 then "" else "." ++ padded 6 micros
  padded 4 date.year.toNat ++ "-" ++ padded 2 date.month ++ "-" ++ padded 2 date.day ++ "T" ++
    padded 2 (seconds / 3600) ++ ":" ++ padded 2 (seconds / 60 % 60) ++ ":" ++
    padded 2 (seconds % 60) ++ fraction

/-- The text of the offset: a letter for none. -/
def offsetText (t : Timestamp) : String :=
  if t.offset = 0 then "Z"
  else
    let minutes := t.offset.natAbs / 60
    (if t.offset < 0 then "-" else "+") ++ padded 2 (minutes / 60) ++ ":" ++ padded 2 (minutes % 60)

/-- The ISO 8601 text. -/
def text (t : Timestamp) : String := t.naiveText ++ t.offsetText

/-- Years that can be written with four digits, zero excepted. -/
def isWritable (t : Timestamp) : Bool := 1 ≤ t.date.year && t.date.year ≤ 9999

/-- The same instant on the clock of Greenwich. -/
def utc? (t : Timestamp) : Option Timestamp :=
  let shifted : Timestamp := ⟨t.instant, 0⟩
  if shifted.isWritable then some shifted else none

/-- The seconds since 1970, rounded to binary64. -/
def epochSeconds (t : Timestamp) : Binary64 :=
  .ofQuotient (t.instant < 0) t.instant.natAbs microsPerSecond.toNat

/-- The milliseconds since 1970: the rounded seconds times a thousand, rounded again, and cut off
toward zero. -/
def epochMillis (t : Timestamp) : Int :=
  (t.epochSeconds.mul (.ofInt 1000)).truncate?.getD 0

end Timestamp

end Automation
