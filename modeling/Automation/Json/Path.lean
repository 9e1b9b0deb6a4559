import Automation.Json.Basic
import Automation.Text.Integer

/-!
# Paths into JSON values

A path is a text of parts separated by dots. Each part selects the member of that name from an
object, or the element at that decimal position from a list; any other step leads nowhere, and so
does the whole path.

## Main definitions

* `Json.Path.parts` — the parts of a path text.
* `Json.step` — the value that one part selects.
* `Json.resolve` — the value at the end of a path.
-/

namespace Automation.Json

/-- The pieces of a text between separators; there is always at least one. -/
def pieces (separator : Char) : List Char → List (List Char)
  | [] => [[]]
  | c :: rest =>
    if c = separator then [] :: pieces separator rest
    else match pieces separator rest with
      | [] => [[c]]
      | piece :: others => (c :: piece) :: others

/-- The parts of a path. -/
def Path.parts (path : String) : List String :=
  (pieces '.' path.toList).map String.ofList

/-- A list position of more digits than an integer may have. -/
structure PositionTooLong where
  digits : Nat
  deriving DecidableEq, Repr

/-- The digits of a part made of ASCII digits alone. -/
def Path.position? (part : String) : Option (List Nat) :=
  match part.toList with
  | [] => none
  | cs => cs.mapM Text.asciiDigit?

/-- The value that one part selects, or nothing. A part of too many digits in a list is a fault
of its own. -/
def step (current : Json) (part : String) : Except PositionTooLong (Option Json) :=
  match current with
  | .obj members => .ok (members.lookup part)
  | .arr elems =>
    match Path.position? part with
    | none => .ok none
    | some digits =>
      if Text.maxIntegerDigits < digits.length then .error ⟨digits.length⟩
      else .ok elems[Text.ofDigits digits]?
  | .null | .bool _ | .num _ | .str _ => .ok none

/-- The value reached from `root` by the parts in turn, or nothing. -/
def walk (root : Json) : List String → Except PositionTooLong (Option Json)
  | [] => .ok (some root)
  | part :: rest =>
    match step root part with
    | .error fault => .error fault
    | .ok none => .ok none
    | .ok (some next) => walk next rest

/-- The value at the end of a path, or nothing when some step leads nowhere. -/
def resolve (path : String) (root : Json) : Except PositionTooLong (Option Json) :=
  walk root (Path.parts path)

end Automation.Json
