import Automation.Text.Surrogate

/-!
# The encoding of JSON text

JSON text is stored in bytes, or in units of two or four bytes of either order. The zeros among the
first bytes tell which, because a JSON text starts with ASCII characters.

## Main definitions

* `Json.Encoding` — how the characters of a text are stored.
* `Json.Encoding.ofStart` — the encoding that the first bytes of a text tell.
* `Json.decode?` — the text that the bytes of a text stand for.
-/

namespace Automation.Json

/-- How the characters of a text are stored: in UTF-8, or in units of two or of four bytes, the
high byte first or last. -/
inductive Encoding where
  | bytes
  | pairs (bigEndian : Bool)
  | quads (bigEndian : Bool)
  deriving DecidableEq, Repr

/-- The encoding that the first bytes of a text tell. A text of one or three bytes tells none but
UTF-8. -/
def Encoding.ofStart : List UInt8 → Encoding
  | [a, b] => if a = 0 then .pairs true else if b = 0 then .pairs false else .bytes
  | a :: b :: c :: d :: _ =>
    if a = 0 then if b = 0 then .quads true else .pairs true
    else if b = 0 then if c = 0 ∧ d = 0 then .quads false else .pairs false
    else .bytes
  | _ => .bytes

/-- The number that the bytes of a unit make. -/
def unitOfBytes (bigEndian : Bool) (bytes : List UInt8) : Nat :=
  (if bigEndian then bytes else bytes.reverse).foldl (fun n byte => n * 256 + byte.toNat) 0

/-- The units of two bytes: none if a byte is left over. -/
def pairUnits? (bigEndian : Bool) : List UInt8 → Option (List Nat)
  | [] => some []
  | a :: b :: rest => (pairUnits? bigEndian rest).map (unitOfBytes bigEndian [a, b] :: ·)
  | _ => none

/-- The units of four bytes: none if bytes are left over. -/
def quadUnits? (bigEndian : Bool) : List UInt8 → Option (List Nat)
  | [] => some []
  | a :: b :: c :: d :: rest =>
    (quadUnits? bigEndian rest).map (unitOfBytes bigEndian [a, b, c, d] :: ·)
  | _ => none

/-- The code points of units of two bytes: two halves of a surrogate pair that fit make one, and a
half without its partner stays as it is. -/
def pointsOfPairs : List Nat → List Nat
  | [] => []
  | [unit] => [unit]
  | high :: low :: rest =>
    if Text.isHighHalf high && Text.isLowHalf low then
      Text.pairPoint high low :: pointsOfPairs rest
    else high :: pointsOfPairs (low :: rest)

/-- The mark that some writers put in front of a text to tell its encoding. -/
def byteOrderMark : Char := Char.ofNat 0xFEFF

/-- Characters without the byte order mark in front of them. -/
def dropMark : List Char → List Char
  | [] => []
  | c :: rest => if c = byteOrderMark then rest else c :: rest

/-- The text that the bytes of a text stand for: none if they break off within a unit, or a unit
numbers no code point. -/
def decode? (text : String) : Option String :=
  let bytes := text.toUTF8.toList
  match Encoding.ofStart bytes with
  | .bytes => some (String.ofList (dropMark text.toList))
  | .pairs bigEndian =>
    (pairUnits? bigEndian bytes).map fun units => Text.ofPoints (pointsOfPairs units)
  | .quads bigEndian =>
    (quadUnits? bigEndian bytes).bind fun units =>
      if units.all (· < 0x110000) then some (Text.ofPoints units) else none

end Automation.Json
