import Automation.Event.Basic

/-!
# Event filters

A filter selects events by subject, type and time; the parts that are set must all hold. Subjects
are compared by their texts, and both time bounds belong to the range.

## Main definitions

* `TimeBound` — a bound of a range of times.
* `EventFilter`, `EventFilter.ofJson` — a filter and its document.
* `EventFilter.accepts` — whether an event passes.
-/

namespace Automation

open Validation

/-- A bound of a range of times. One that comes without an offset is a time at Greenwich. -/
structure TimeBound where
  time : Timestamp
  hasOffset : Bool
  deriving DecidableEq, Repr

namespace TimeBound

def ofJson (value : Json) : Validated TimeBound :=
  let hasOffset := match value with
    | .str text => !Timestamp.omitsOffset text
    | .null | .bool _ | .num _ | .arr _ | .obj _ => true
  (timestamp value).map fun time => ⟨time, hasOffset⟩

/-- The text of a bound inside the display of a filter. -/
def display (bound : TimeBound) : String :=
  let t := bound.time
  let date := t.date
  let seconds := (t.wall / Timestamp.microsPerSecond % Timestamp.secondsPerDay).toNat
  let micros := (t.wall % Timestamp.microsPerSecond).toNat
  let second := seconds % 60
  let parts := [date.year.toNat, date.month, date.day, seconds / 3600, seconds / 60 % 60] ++
    (if second = 0 && micros = 0 then [] else [second]) ++ (if micros = 0 then [] else [micros])
  let zone := if bound.hasOffset then s!"TzInfo({t.offset})" else "datetime.timezone.utc"
  "datetime.datetime(" ++ ", ".intercalate (parts.map toString) ++ s!", tzinfo={zone})"

end TimeBound

/-- A selection of events. -/
structure EventFilter where
  subjectId? : Option Identifier
  type? : Option String
  since? : Option TimeBound
  until? : Option TimeBound
  deriving DecidableEq, Repr

namespace EventFilter

/-- The filter that every event passes. -/
def everything : EventFilter := ⟨none, none, none, none⟩

def ofJson (document : Json) : Validated EventFilter :=
  record document fun fields =>
    Validated.accept EventFilter.mk
      |>.ap (optional ["subject_id"] none (nullable Identifier.ofJson) fields)
      |>.ap (optional ["type"] none (nullable Validation.text) fields)
      |>.ap (optional ["since"] none (nullable TimeBound.ofJson) fields)
      |>.ap (optional ["until"] none (nullable TimeBound.ofJson) fields)

/-- The document of an optional part. -/
def optionalJson {α : Type} (toJson : α → Json) : Option α → Json
  | some value => toJson value
  | none => .null

def toJson (filter : EventFilter) : Json := .obj [
  ("subject_id", optionalJson Identifier.toJson filter.subjectId?),
  ("type", optionalJson Json.str filter.type?),
  ("since", optionalJson (fun bound => .str bound.time.text) filter.since?),
  ("until", optionalJson (fun bound => .str bound.time.text) filter.until?)]

/-- Whether an event passes. -/
def accepts (filter : EventFilter) (event : Event) : Bool :=
  (match filter.subjectId? with
    | some subject => event.subjectId.toText = subject.toText
    | none => true) &&
  (match filter.type? with
    | some type => event.type = type
    | none => true) &&
  (match filter.since? with
    | some bound => bound.time.instant ≤ event.timestamp.instant
    | none => true) &&
  (match filter.until? with
    | some bound => event.timestamp.instant ≤ bound.time.instant
    | none => true)

/-- The text of an optional part inside the display of a filter. -/
def displayPart {α : Type} (display : α → String) : Option α → String
  | some value => display value
  | none => "None"

/-- The text of a filter in reports. -/
def display (filter : EventFilter) : String :=
  "subject_id=" ++ displayPart Identifier.display filter.subjectId? ++
  " type=" ++ displayPart Text.quoted filter.type? ++
  " since=" ++ displayPart TimeBound.display filter.since? ++
  " until=" ++ displayPart TimeBound.display filter.until?

end EventFilter

end Automation
