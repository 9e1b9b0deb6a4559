import Automation.Text.Quoted

/-!
# Percent encoding

Text as a single segment of a URL: unreserved characters stay, every other one is written as the
percent escapes of its UTF-8 bytes. No character is taken for a mark of half of a surrogate pair; a
text that may hold such a half is checked before.

## Main definitions

* `Text.percentEncode` — the encoding, given the characters to keep.
* `Text.segment` — a text as one path segment.
-/

namespace Automation.Text

/-- The upper-case character of a hexadecimal digit. -/
def upperHexChar (d : Nat) : Char :=
  if d < 10 then Char.ofNat ('0'.toNat + d) else Char.ofNat ('A'.toNat + (d - 10))

/-- The percent escape of a byte. -/
def percentByte (byte : UInt8) : List Char :=
  ['%', upperHexChar (byte.toNat / 16), upperHexChar (byte.toNat % 16)]

/-- The percent escapes of the UTF-8 bytes of a character. -/
def percentChar (c : Char) : List Char := (String.utf8EncodeChar c).flatMap percentByte

/-- The characters that need no escape anywhere in a URL. -/
def isUnreserved (c : Char) : Bool :=
  c.isAlphanum || c = '_' || c = '.' || c = '-' || c = '~'

/-- A text with every character escaped that is not to be kept. -/
def percentEncode (keep : Char → Bool) (cs : List Char) : List Char :=
  cs.flatMap fun c => if keep c then [c] else percentChar c

/-- A text as one path segment. -/
def segment (s : String) : String := String.ofList (percentEncode isUnreserved s.toList)

end Automation.Text
