import Automation.Json.Display
import Automation.Text.Integer
import Automation.Text.Surrogate
import Automation.Text.Utf8

/-!
# Reading escaped texts

The reading side of percent encoding, and the query of a URL as a list of names and values.

## Main definitions

* `Text.percentDecode` — the text of a percent encoding.
* `Query`, `Query.read` — the names and values of a query.
* `Query.last?` — the value under a name.
-/

namespace Automation

namespace Text

/-- The bytes that a percent encoding stands for. A percent sign without two hexadecimal digits
behind it stands for itself. -/
def percentBytes : List Char → List UInt8
  | [] => []
  | '%' :: high :: low :: rest =>
    match hexDigit? high, hexDigit? low with
    | some high, some low => UInt8.ofNat (high * 16 + low) :: percentBytes rest
    | _, _ => String.utf8EncodeChar '%' ++ percentBytes (high :: low :: rest)
  | c :: rest => String.utf8EncodeChar c ++ percentBytes rest

/-- The text of a percent encoding. -/
def percentDecode (text : String) : String := String.ofList (ofUtf8 (percentBytes text.toList))

end Text

/-- The names and values of a query, in their order. -/
abbrev Query := List (String × String)

namespace Query

/-- A name or a value of a query: a plus sign stands for a space. -/
def decodePart (part : String) : String :=
  let escaped := String.ofList (part.toList.map fun c => if c = '+' then ' ' else c)
  Text.spelled (Text.percentDecode escaped).toList

/-- One field of a query; without an equals sign its value is empty. -/
def readField (field : String) : String × String :=
  let cs := field.toList
  (decodePart (String.ofList (cs.takeWhile (· != '='))),
    decodePart (String.ofList ((cs.dropWhile (· != '=')).drop 1)))

/-- The fields that a text spells; empty ones count for nothing. -/
def read (text : String) : Query := ((text.splitOn "&").filter (· ≠ "")).map readField

/-- A value as a field of a query has it: `null` is empty, a boolean is in small letters. -/
def valueText : Json → String
  | .null => ""
  | .bool b => if b then "true" else "false"
  | value => value.plainText

/-- The query of an object; a list gives its name to each of its elements. -/
def ofMembers (members : Json.Members) : Query :=
  members.flatMap fun (name, value) =>
    match value with
    | .arr elems => elems.map fun elem => (name, valueText elem)
    | value => [(name, valueText value)]

/-- The last value under a name. -/
def last? (query : Query) (name : String) : Option String := List.lookup name (List.reverse query)

end Query

end Automation
