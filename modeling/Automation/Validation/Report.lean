import Automation.Json.Display
import Automation.Text.Excerpt
import Automation.Validation.Issue

/-!
# Reports on validation issues

The text about a refused document: how many issues it has with a record, and for each issue its
place, the rule in words, the code of the rule, the offending value in short and where to read
more.

## Main definitions

* `Validation.Rule.wording` — a rule in words.
* `Validation.report` — the text about all issues of a document.
-/

namespace Automation.Validation

/-- The text of a step. -/
def Step.text : Step → String
  | .field name => Text.lossy name
  | .position index => toString index

/-- A rule in words; `record` names the kind of record that was expected. -/
def Rule.wording (record : String) : Rule → String
  | .missing => "Field required"
  | .recordExpected => "Input should be a valid dictionary or instance of " ++ record
  | .textExpected => "Input should be a valid string"
  | .textTooShort => "String should have at least 1 character"
  | .textNotUnicode =>
    "Input should be a valid string, unable to parse raw data as a unicode string"
  | .integerExpected => "Input should be a valid integer"
  | .integerUnreadable => "Input should be a valid integer, unable to parse string as an integer"
  | .integerTooLong => "Unable to parse input string as an integer, exceeded maximum size"
  | .integerWithFraction => "Input should be a valid integer, got a number with a fractional part"
  | .finiteExpected => "Input should be a finite number"
  | .numberExpected => "Input should be a valid number"
  | .numberUnreadable => "Input should be a valid number, unable to parse string as a number"
  | .listExpected => "Input should be a valid list"
  | .mapExpected => "Input should be a valid dictionary"
  | .notGreater => "Input should be greater than the bound"
  | .notGreaterOrEqual => "Input should be greater than or equal to the bound"
  | .unknownMember => "Input should be one of the members"
  | .unknownLiteral => "Input should be one of the literals"
  | .timestampUnreadable => "Input should be a valid datetime or date"
  | .timestampOutOfRange => "Input should be a valid datetime"
  | .timestampExpected => "Input should be a valid datetime"
  | .unknownField => "Extra inputs are not permitted"
  | .malformedJson => "JSON decode error"

/-- How many bytes of a value are shown. -/
def shownBytes : Nat := 50

/-- The lines about one issue. -/
def Issue.lines (record : String) (issue : Issue) : List String :=
  let place := ".".intercalate (issue.place.map Step.text)
  let code := issue.rule.code
  let shown := Text.excerpt shownBytes issue.input.display
  let kind := issue.input.kindName
  let wording := issue.rule.wording record
  (if issue.place.isEmpty then [] else [place]) ++ [
    s!"  {wording} [type={code}, input_value={shown}, input_type={kind}]",
    "    For further information visit https://errors.pydantic.dev/2.14/v/" ++ code]

/-- The text about all issues of a document. -/
def report (record : String) (issues : List Issue) : String :=
  let noun := if issues.length = 1 then "error" else "errors"
  "\n".intercalate
    (s!"{issues.length} validation {noun} for {record}" :: issues.flatMap (Issue.lines record))

end Automation.Validation
