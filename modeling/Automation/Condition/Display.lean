import Automation.Condition.Basic
import Automation.Json.Display

/-!
# Display text of conditions

The text that shows a condition inside a quoted document.

## Main definitions

* `Condition.display` — the text of a condition.
* `Condition.displayDocument` — the text of a document some of whose values are conditions.
-/

namespace Automation

/-- The text of an operand. -/
def Operand.display : Operand → String
  | .path p => "Var(path=" ++ Text.quoted p ++ ")"
  | .literal value => value.display
  | .absent => "UNDEFINED"

/-- The name of a comparison. -/
def Comparison.name : Comparison → String
  | .equal => "Eq"
  | .atLeast => "Gte"
  | .atMost => "Lte"

namespace Condition

/-- Texts in parentheses; a single one keeps a comma. -/
def tupleText : List String → String
  | [] => "()"
  | [text] => "(" ++ text ++ ",)"
  | texts => "(" ++ ", ".intercalate texts ++ ")"

mutual
/-- The text of a condition. -/
def display : Condition → String
  | .truthy path => "Var(path=" ++ Text.quoted path ++ ")"
  | .compare comparison left right =>
    comparison.name ++ "(left=" ++ left.display ++ ", right=" ++ right.display ++ ")"
  | .all conditions => "And(nodes=" ++ tupleText (displayEach conditions) ++ ")"
  | .any conditions => "Or(nodes=" ++ tupleText (displayEach conditions) ++ ")"
  | .invalid reason document =>
    "InvalidCondition(reason=" ++ Text.quoted reason ++ ", raw=" ++ document.display ++ ")"

/-- The texts of the conditions of a group. -/
def displayEach : List Condition → List String
  | [] => []
  | condition :: rest => display condition :: displayEach rest
end

mutual
/-- The text of a document in which `built?` tells which values refer to conditions. -/
def displayDocument (built? : Json → Option Condition) (document : Json) : String :=
  match built? document with
  | some condition => condition.display
  | none =>
    match document with
    | .arr elems => "[" ++ ", ".intercalate (displayElems built? elems) ++ "]"
    | .obj members => "\x7b" ++ ", ".intercalate (displayMembers built? members) ++ "\x7d"
    | other => other.display

/-- The texts of the elements of a list. -/
def displayElems (built? : Json → Option Condition) : List Json → List String
  | [] => []
  | x :: rest => displayDocument built? x :: displayElems built? rest

/-- The texts of the members of an object. -/
def displayMembers (built? : Json → Option Condition) : List (String × Json) → List String
  | [] => []
  | (key, value) :: rest =>
    (Text.quoted key ++ ": " ++ displayDocument built? value) :: displayMembers built? rest
end

end Condition

end Automation
