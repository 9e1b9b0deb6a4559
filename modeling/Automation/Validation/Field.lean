import Automation.Json.Writer
import Automation.Number.Reader
import Automation.Time.Reader
import Automation.Validation.Issue

/-!
# Reading fields

Readers of the values that documents are made of. Texts stay texts; an integer may also come as a
boolean, as a number without a fraction or as a text; a timestamp as a text or a number.

## Main definitions

* `Validation.record` — the members of a document.
* `Validation.required`, `Validation.optional` — a field under the first of its names present.
* `Validation.text`, `Validation.integer`, `Validation.list`, … — the readers of values.
-/

namespace Automation.Validation

open Json (Members)

variable {α β : Type}

/-- The members of a document; a value that is no object is refused as a whole. -/
def record (document : Json) (read : Members → Validated α) : Validated α :=
  match document with
  | .obj members => read members
  | .null | .bool _ | .num _ | .str _ | .arr _ => Validated.refuse .recordExpected document

/-- The first of the names that is present, with its value. -/
def present? (names : List String) (members : Members) : Option (String × Json) :=
  names.findSome? fun name => (members.lookup name).map (name, ·)

/-- A field that has to be present under one of its names; its issues lie under the name used. -/
def required (names : List String) (read : Json → Validated α) (members : Members) :
    Validated α :=
  match present? names members with
  | some (name, value) => Validated.under (.field name) (read value)
  | none => Validated.under (.field (names.headD "")) (Validated.refuse .missing (.obj members))

/-- A field that may be absent. -/
def optional (names : List String) (default : α) (read : Json → Validated α)
    (members : Members) : Validated α :=
  match present? names members with
  | some (name, value) => Validated.under (.field name) (read value)
  | none => .ok default

/-- A value or `null`. -/
def nullable (read : Json → Validated α) : Json → Validated (Option α)
  | .null => .ok none
  | value => (read value).map some

/-- Any value. -/
def anything (value : Json) : Validated Json := .ok value

/-- A text. -/
def text (value : Json) : Validated String :=
  match value with
  | .str s => .ok s
  | .null | .bool _ | .num _ | .arr _ | .obj _ => Validated.refuse .textExpected value

/-- A text that is not empty, made of characters alone. -/
def nonEmptyText (value : Json) : Validated String :=
  match text value with
  | .ok s =>
    if Text.hasHalf s then Validated.refuse .textNotUnicode value
    else if s = "" then Validated.refuse .textTooShort value
    else .ok s
  | .error issues => .error issues

/-- The integer that a binary64 number without a fraction is, within 64 bits. -/
def integerOfFloat (x : Binary64) : Validated Int :=
  let input := Json.num (.float x)
  match x with
  | .infinite _ | .nan => Validated.refuse .finiteExpected input
  | .finite .. =>
    match x.toInt? with
    | none => Validated.refuse .integerWithFraction input
    | some i => if i.natAbs < Nat.pow 2 63 then .ok i else Validated.refuse .integerTooLong input

/-- Whether a text starts with more digits than an integer may have, behind at most a minus and
without a zero in front. -/
def startsTooLong (cs : List Char) : Bool :=
  let digits := (if cs.head? = some '-' then cs.drop 1 else cs).takeWhile Char.isDigit
  digits.head? ≠ some '0' && Text.maxIntegerDigits < digits.length

/-- A numeral without the zeros in front, among which underscores may stand; a zero stays where
nothing else is left. A minus behind the zeros becomes the sign. -/
def dropLeadingZeros? (cs : List Char) : Option (List Char) :=
  let isZero := fun c : Char => c = '0' || c = '_'
  let zeros := if cs.head? = some '0' then cs.takeWhile isZero else []
  match cs.drop zeros.length with
  | [] => if zeros.getLast? = some '0' then some ['0'] else none
  | '.' :: rest => if zeros.getLast? = some '0' then some ('0' :: '.' :: rest) else none
  | c :: rest => if c.isDigit || c = '-' then some (c :: rest) else none

/-- A numeral behind its sign, without leading zeros. A plus goes with a number without a sign of
its own. -/
def dropSignedZeros? : List Char → Option (List Char)
  | '+' :: rest => if rest.head? = some '-' then none else dropLeadingZeros? rest
  | '-' :: rest => (dropLeadingZeros? rest).map ('-' :: ·)
  | cs => dropLeadingZeros? cs

/-- A numeral without a fraction of zeros. -/
def dropZeroFraction (cs : List Char) : List Char :=
  let fraction := (cs.dropWhile (· ≠ '.')).drop 1
  if !fraction.isEmpty && fraction.all (· = '0') then cs.takeWhile (· ≠ '.') else cs

/-- The digits of a numeral in plain form, which has no zero in front of other digits. -/
def plainDigits? (cs : List Char) : Option (List Nat) :=
  if cs.isEmpty || 1 < cs.length && cs.head? = some '0' then none
  else if Text.maxIntegerDigits < cs.length then none
  else cs.mapM Text.asciiDigit?

/-- The integer of a numeral in plain form. -/
def plainInteger? (cs : List Char) : Option Int :=
  match cs with
  | '-' :: rest => (plainDigits? rest).map fun digits => -(Text.ofDigits digits : Int)
  | cs => (plainDigits? cs).map fun digits => (Text.ofDigits digits : Int)

/-- The integer that a text spells: blanks around it, a sign, zeros in front, single underscores
between digits and a fraction of zeros are allowed. -/
def integerOfText (s : String) : Validated Int :=
  if Text.hasHalf s then Validated.refuse .textNotUnicode (.str s)
  else if startsTooLong s.toList then Validated.refuse .integerTooLong (.str s)
  else
    let plain? := (dropSignedZeros? (Text.trimBlanks Text.isBlank s.toList)).map fun cs =>
      let whole := dropZeroFraction cs
      (Text.dropUnderscores? whole).getD whole
    match plain?.bind plainInteger? with
    | some i => .ok i
    | none => Validated.refuse .integerUnreadable (.str s)

/-- An integer. -/
def integer (value : Json) : Validated Int :=
  match value with
  | .num (.int i) => .ok i
  | .num (.float x) => integerOfFloat x
  | .bool b => .ok (if b then 1 else 0)
  | .str s => integerOfText s
  | .null | .arr _ | .obj _ => Validated.refuse .integerExpected value

/-- An integer above a bound. -/
def integerAbove (bound : Int) (value : Json) : Validated Int :=
  match integer value with
  | .ok i => if bound < i then .ok i else Validated.refuse .notGreater value
  | .error issues => .error issues

/-- An integer that is at least a bound. -/
def integerAtLeast (bound : Int) (value : Json) : Validated Int :=
  match integer value with
  | .ok i => if bound ≤ i then .ok i else Validated.refuse .notGreaterOrEqual value
  | .error issues => .error issues

/-- A binary64 value; an integer is rounded. -/
def float (value : Json) : Validated Binary64 :=
  match value with
  | .num (.float x) => .ok x
  | .num (.int i) =>
    let x := Binary64.ofInt i
    if x.isFinite then .ok x else Validated.refuse .numberExpected value
  | .bool b => .ok (.ofInt (if b then 1 else 0))
  | .str s => match Binary64.read? s with
    | some x => .ok x
    | none => Validated.refuse .numberUnreadable value
  | .null | .arr _ | .obj _ => Validated.refuse .numberExpected value

/-- A binary64 value that is at least an integer bound; NaN is not. -/
def floatAtLeast (bound : Int) (value : Json) : Validated Binary64 :=
  match float value with
  | .ok x =>
    if Number.le (.int bound) (.float x) then .ok x
    else Validated.refuse .notGreaterOrEqual value
  | .error issues => .error issues

/-- A list. -/
def list (read : Json → Validated α) (value : Json) : Validated (List α) :=
  match value with
  | .arr elems => Validated.sequence
      (elems.mapIdx fun index elem => Validated.under (.position index) (read elem))
  | .null | .bool _ | .num _ | .str _ | .obj _ => Validated.refuse .listExpected value

/-- An object of any values. -/
def members (value : Json) : Validated Members :=
  match value with
  | .obj members => .ok members
  | .null | .bool _ | .num _ | .str _ | .arr _ => Validated.refuse .mapExpected value

/-- An object whose values are read one by one. -/
def map (read : Json → Validated α) (value : Json) : Validated (List (String × α)) :=
  match value with
  | .obj members => Validated.sequence
      (members.map fun (key, value) =>
        (Validated.under (.field key) (read value)).map (key, ·))
  | .null | .bool _ | .num _ | .str _ | .arr _ => Validated.refuse .mapExpected value

/-- A timestamp. -/
def timestamp (value : Json) : Validated Timestamp :=
  match Timestamp.ofJson value with
  | .ok t => .ok t
  | .error .unreadable =>
    Validated.refuse (if value.hasHalf then .textNotUnicode else .timestampUnreadable) value
  | .error .outOfRange | .error .yearZero => Validated.refuse .timestampOutOfRange value
  | .error .wrongKind => Validated.refuse .timestampExpected value

end Automation.Validation
