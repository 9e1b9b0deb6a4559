import Automation.Json.Basic
import Automation.Text.Quoted

/-!
# JSON text of values

The JSON text of a value on one line. Only what JSON requires is escaped: other scripts stay as
they are. A text style says how members and elements are set apart. An integer is written with all
its digits.

## Main definitions

* `Json.write` — the text of a value.
* `Json.hasUnwritable` — whether a value holds a number that strict JSON cannot express.
* `Json.hasHalf` — whether a value holds half of a surrogate pair in a text.
* `Json.isSendable` — whether a value can go out as strict JSON in UTF-8.
-/

namespace Automation.Json

/-- What stands between elements and behind keys. -/
structure Separators where
  element : String
  key : String

/-- Elements and values set apart by a space. -/
def Separators.spaced : Separators := ⟨", ", ": "⟩

/-- No space at all. -/
def Separators.compact : Separators := ⟨",", ":"⟩

/-- A character of a JSON string. -/
def stringChar (c : Char) : List Char :=
  if c = '"' then ['\\', '"']
  else if c = '\\' then ['\\', '\\']
  else if c = '\n' then ['\\', 'n']
  else if c = '\r' then ['\\', 'r']
  else if c = '\t' then ['\\', 't']
  else if c = '\x08' then ['\\', 'b']
  else if c = '\x0c' then ['\\', 'f']
  else if c.toNat < 32 then '\\' :: 'u' :: Text.hexText 4 c.toNat
  else [c]

/-- A JSON string. -/
def stringText (s : String) : String :=
  String.ofList ('"' :: s.toList.flatMap stringChar ++ ['"'])

mutual
/-- The JSON text of a value. -/
def write (separators : Separators) : Json → String
  | .null => "null"
  | .bool b => if b then "true" else "false"
  | .num n => n.jsonText
  | .str s => stringText s
  | .arr elems => "[" ++ separators.element.intercalate (writeElems separators elems) ++ "]"
  | .obj members =>
    "\x7b" ++ separators.element.intercalate (writeMembers separators members) ++ "\x7d"

/-- The JSON texts of the elements of a list. -/
def writeElems (separators : Separators) : List Json → List String
  | [] => []
  | x :: rest => write separators x :: writeElems separators rest

/-- The JSON texts of the members of an object. -/
def writeMembers (separators : Separators) : List (String × Json) → List String
  | [] => []
  | (key, value) :: rest =>
    (stringText key ++ separators.key ++ write separators value) :: writeMembers separators rest
end

mutual
/-- The first infinite or undefined number inside a value, in reading order. -/
def firstNonFinite? : Json → Option Binary64
  | .num (.float x) => if x.isFinite then none else some x
  | .arr elems => firstNonFiniteElem? elems
  | .obj members => firstNonFiniteMember? members
  | .num (.int _) | .null | .bool _ | .str _ => none

/-- The first infinite or undefined number among elements. -/
def firstNonFiniteElem? : List Json → Option Binary64
  | [] => none
  | x :: rest => firstNonFinite? x <|> firstNonFiniteElem? rest

/-- The first infinite or undefined number among members. -/
def firstNonFiniteMember? : List (String × Json) → Option Binary64
  | [] => none
  | (_, value) :: rest => firstNonFinite? value <|> firstNonFiniteMember? rest
end

/-- Whether a value holds a number that strict JSON cannot express. -/
def hasUnwritable (v : Json) : Bool := v.firstNonFinite?.isSome

mutual
/-- Whether a value holds half of a surrogate pair in a text or in a key. -/
def hasHalf : Json → Bool
  | .str s => Text.hasHalf s
  | .arr elems => anyElemHasHalf elems
  | .obj members => anyMemberHasHalf members
  | .null | .bool _ | .num _ => false

/-- Whether an element holds half of a surrogate pair. -/
def anyElemHasHalf : List Json → Bool
  | [] => false
  | x :: rest => hasHalf x || anyElemHasHalf rest

/-- Whether a member holds half of a surrogate pair, in its key or in its value. -/
def anyMemberHasHalf : List (String × Json) → Bool
  | [] => false
  | (key, value) :: rest => Text.hasHalf key || hasHalf value || anyMemberHasHalf rest
end

/-- Whether a value can go out: strict JSON expresses its numbers, and UTF-8 its texts. -/
def isSendable (v : Json) : Bool := !v.hasUnwritable && !v.hasHalf

end Automation.Json
