import Automation.Json.Basic

/-!
# Validation issues

What is wrong with a submitted document: each issue names the place, as a path of field names and
list positions, and the rule that the value there breaks. A document is either read as a whole or
refused with all its issues, in the order of its fields.

## Main definitions

* `Validation.Rule`, `Validation.Issue` — a broken rule, and where it is broken.
* `Validated` — a value or the issues that stand in its way.
* `Validated.ap` — reading the next field, keeping the issues of all fields.
-/

namespace Automation

namespace Validation

/-- A step on the way to a value: into a field or to a list position. -/
inductive Step where
  | field (name : String)
  | position (index : Nat)
  deriving DecidableEq, Repr

/-- The rules that a value can break. -/
inductive Rule where
  | missing
  | recordExpected
  | textExpected
  | textTooShort
  | textNotUnicode
  | integerExpected
  | integerUnreadable
  | integerTooLong
  | integerWithFraction
  | finiteExpected
  | numberExpected
  | numberUnreadable
  | listExpected
  | mapExpected
  | notGreater
  | notGreaterOrEqual
  | unknownMember
  | unknownLiteral
  | timestampUnreadable
  | timestampOutOfRange
  | timestampExpected
  | unknownField
  | malformedJson
  deriving DecidableEq, Repr

/-- The code under which a broken rule is reported. -/
def Rule.code : Rule → String
  | .missing => "missing"
  | .recordExpected => "model_type"
  | .textExpected => "string_type"
  | .textTooShort => "string_too_short"
  | .textNotUnicode => "string_unicode"
  | .integerExpected => "int_type"
  | .integerUnreadable => "int_parsing"
  | .integerTooLong => "int_parsing_size"
  | .integerWithFraction => "int_from_float"
  | .finiteExpected => "finite_number"
  | .numberExpected => "float_type"
  | .numberUnreadable => "float_parsing"
  | .listExpected => "list_type"
  | .mapExpected => "dict_type"
  | .notGreater => "greater_than"
  | .notGreaterOrEqual => "greater_than_equal"
  | .unknownMember => "enum"
  | .unknownLiteral => "literal_error"
  | .timestampUnreadable => "datetime_from_date_parsing"
  | .timestampOutOfRange => "datetime_parsing"
  | .timestampExpected => "datetime_type"
  | .unknownField => "extra_forbidden"
  | .malformedJson => "json_invalid"

/-- A broken rule, the way from the document to the value that breaks it, and that value. A
missing field is an issue of the object that should have it. -/
structure Issue where
  place : List Step
  rule : Rule
  input : Json
  deriving DecidableEq, Repr

/-- The issue as seen from one step further out. -/
def Issue.under (step : Step) (issue : Issue) : Issue :=
  { issue with place := step :: issue.place }

end Validation

open Validation

/-- A value, or the issues that stand in its way. -/
abbrev Validated (α : Type) := Except (List Issue) α

namespace Validated

variable {α β : Type}

/-- A value without issues. -/
def accept (value : α) : Validated α := .ok value

/-- One issue with the value itself. -/
def refuse (rule : Rule) (input : Json) : Validated α := .error [⟨[], rule, input⟩]

/-- The issues as seen from one step further out. -/
def under (step : Step) (result : Validated α) : Validated α :=
  result.mapError fun issues => issues.map (·.under step)

/-- The function applied to the value, or the issues of both in their order. -/
def ap (function : Validated (α → β)) (argument : Validated α) : Validated β :=
  match function, argument with
  | .ok f, .ok a => .ok (f a)
  | .error issues, .ok _ => .error issues
  | .ok _, .error issues => .error issues
  | .error issues, .error more => .error (issues ++ more)

/-- The values of all results, or the issues of all. -/
def sequence : List (Validated α) → Validated (List α)
  | [] => .ok []
  | result :: rest => (Validated.ap (result.map List.cons) (sequence rest) : Validated (List α))

end Validated

end Automation
