import Automation.Json.Display
import Automation.Validation.Field

/-!
# Identifiers

Events and their subjects are identified by an integer or a text, whichever was submitted. Two
identifiers name the same thing when their texts agree.

## Main definitions

* `Identifier` — an integer or a text.
* `Identifier.toText` — the text of an identifier.
-/

namespace Automation

open Validation

/-- An integer or a text that identifies something. -/
inductive Identifier where
  | number (i : Int)
  | text (s : String)
  deriving DecidableEq, Repr, Inhabited

namespace Identifier

/-- The text of an identifier. A number has one however long it is; the service can write no number
of more than `Text.maxIntegerDigits` digits, but it reads none either. -/
def toText : Identifier → String
  | .number i => toString i
  | .text s => s

def toJson : Identifier → Json
  | .number i => .ofInt i
  | .text s => .str s

/-- The text of an identifier inside a larger display. -/
def display (i : Identifier) : String := i.toJson.display

/-- A text as it is, or else an integer; a value that is neither breaks a rule of each. -/
def ofJson : Json → Validated Identifier
  | .str s => .ok (.text s)
  | value =>
    match integer value with
    | .ok i => .ok (.number i)
    | .error issues => .error
        (issues.map (·.under (.field "int")) ++ [⟨[.field "str"], .textExpected, value⟩])

end Identifier

end Automation
