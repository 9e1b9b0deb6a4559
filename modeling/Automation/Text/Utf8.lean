/-!
# Text of UTF-8 bytes

The text that bytes encode. Bytes that are no part of an encoded character, and encodings that
break off, become replacement characters: one for each longest beginning of an encoding.

## Main definitions

* `Text.Lead` — what a byte means at the start of a character.
* `Text.ofUtf8` — the characters of bytes.
-/

namespace Automation.Text

/-- What a byte means at the start of a character: it is a whole character, it opens one with the
bits it gives and the ranges of the bytes that have to follow, or it means nothing. -/
inductive Lead where
  | whole (c : Char)
  | opens (bits : Nat) (ranges : List (Nat × Nat))
  | nothing
  deriving DecidableEq, Repr

/-- The range of the bytes that continue a character. -/
def continuation : Nat × Nat := (0x80, 0xBF)

/-- What a byte means at the start of a character. Overlong forms and surrogates are kept out by
the range of the second byte. -/
def Lead.ofByte (byte : Nat) : Lead :=
  if byte < 0x80 then .whole (Char.ofNat byte)
  else if byte < 0xC2 then .nothing
  else if byte < 0xE0 then .opens (byte - 0xC0) [continuation]
  else if byte = 0xE0 then .opens 0 [(0xA0, 0xBF), continuation]
  else if byte = 0xED then .opens 0xD [(0x80, 0x9F), continuation]
  else if byte < 0xF0 then .opens (byte - 0xE0) [continuation, continuation]
  else if byte = 0xF0 then .opens 0 [(0x90, 0xBF), continuation, continuation]
  else if byte < 0xF4 then .opens (byte - 0xF0) [continuation, continuation, continuation]
  else if byte = 0xF4 then .opens 4 [(0x80, 0x8F), continuation, continuation]
  else .nothing

/-- The character that stands for bytes without a meaning. -/
def replacement : Char := Char.ofNat 0xFFFD

/-- A byte at the start of a character: the characters that are complete with it, and the
character that it opens. -/
def startCharacter (byte : UInt8) : List Char × Option (Nat × List (Nat × Nat)) :=
  match Lead.ofByte byte.toNat with
  | .whole c => ([c], none)
  | .opens bits ranges => ([], some (bits, ranges))
  | .nothing => ([replacement], none)

/-- One more byte: the characters that are complete with it, and the character still open. -/
def continueCharacter (byte : UInt8) (bits : Nat) :
    List (Nat × Nat) → List Char × Option (Nat × List (Nat × Nat))
  | [] => startCharacter byte
  | (low, high) :: ranges =>
    if low ≤ byte.toNat ∧ byte.toNat ≤ high then
      let bits := bits * 64 + byte.toNat % 64
      if ranges.isEmpty then ([Char.ofNat bits], none) else ([], some (bits, ranges))
    else
      let (complete, opened) := startCharacter byte
      (replacement :: complete, opened)

/-- The characters of bytes behind a character that may still be open. -/
def decodeUtf8 : Option (Nat × List (Nat × Nat)) → List UInt8 → List Char
  | none, [] => []
  | some _, [] => [replacement]
  | none, byte :: rest =>
    let (complete, opened) := startCharacter byte
    complete ++ decodeUtf8 opened rest
  | some (bits, ranges), byte :: rest =>
    let (complete, opened) := continueCharacter byte bits ranges
    complete ++ decodeUtf8 opened rest

/-- The characters of bytes. -/
def ofUtf8 (bytes : List UInt8) : List Char := decodeUtf8 none bytes

end Automation.Text
