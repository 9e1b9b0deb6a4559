import Automation.Json.Basic
import Automation.Text.Quoted

/-!
# Display text of JSON values

The text that shows a value in messages and log lines: `None`, `True`, `[1, 'a']`, `{'k': 1.0}`.
A text is quoted inside a value and plain on its own.

An integer is written with all its digits. Those with more than `Text.maxIntegerDigits` have no text
in the service, but no value that was read holds one: neither JSON text nor a number in a text can
spell it.

## Main definitions

* `Json.display` — the text with every string quoted.
* `Json.plainText` — the same, but a string on its own is shown as it is.
* `Json.kindName` — the name of the kind of a value.
-/

namespace Automation.Json

mutual
/-- The text of a value, its strings quoted. -/
def display : Json → String
  | .null => "None"
  | .bool b => if b then "True" else "False"
  | .num n => n.text
  | .str s => Text.quoted s
  | .arr elems => "[" ++ ", ".intercalate (displayElems elems) ++ "]"
  | .obj members => "\x7b" ++ ", ".intercalate (displayMembers members) ++ "\x7d"

/-- The texts of the elements of a list. -/
def displayElems : List Json → List String
  | [] => []
  | x :: rest => display x :: displayElems rest

/-- The texts of the members of an object. -/
def displayMembers : List (String × Json) → List String
  | [] => []
  | (key, value) :: rest => (Text.quoted key ++ ": " ++ display value) :: displayMembers rest
end

/-- The text of a value, a string on its own as it is. Integers of more than
`Text.maxIntegerDigits` digits are written as well, although the service can write none of them. -/
def plainText : Json → String
  | .str s => s
  | other => display other

/-- The name of the kind that a value is of. -/
def kindName : Json → String
  | .null => "NoneType"
  | .bool _ => "bool"
  | .num (.int _) => "int"
  | .num (.float _) => "float"
  | .str _ => "str"
  | .arr _ => "list"
  | .obj _ => "dict"

end Automation.Json
