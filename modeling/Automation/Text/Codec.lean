import Automation.Text.Quoted

/-!
# Encodings of text

Texts are sent in ASCII or in UTF-8. ASCII has only the first characters, and UTF-8 has all
characters but no halves of surrogate pairs. The first run of code points that an encoding does not
have keeps a text from being sent in it.

## Main definitions

* `Text.Codec` — the encodings.
* `Text.Codec.fault?`, `Text.Codec.check` — what keeps a text from being encoded.
-/

namespace Automation.Text

/-- Whether a character is ASCII. -/
def isAscii (c : Char) : Bool := c.toNat < 128

/-- The encodings in which texts are sent. -/
inductive Codec where
  | ascii
  | utf8
  deriving DecidableEq, Repr

namespace Codec

/-- The name of an encoding. -/
def name : Codec → String
  | .ascii => "ascii"
  | .utf8 => "utf-8"

/-- Whether an encoding has a code point. -/
def covers : Codec → Nat → Bool
  | .ascii, n => n < 128
  | .utf8, n => !isHalf n

/-- Why an encoding does not have a code point. -/
def reason : Codec → String
  | .ascii => "ordinal not in range(128)"
  | .utf8 => "surrogates not allowed"

end Codec

/-- A run of code points that an encoding does not have: the first of them, its position, and how
many more follow. -/
structure EncodingFault where
  codec : Codec
  first : Nat
  position : Nat
  more : Nat
  deriving DecidableEq, Repr

/-- The message about a run of code points that cannot be encoded. -/
def EncodingFault.message (fault : EncodingFault) : String :=
  let what :=
    if fault.more = 0 then
      s!"character '{String.ofList (numberedEscape fault.first)}' in position " ++
        toString fault.position
    else s!"characters in position {fault.position}-{fault.position + fault.more}"
  s!"'{fault.codec.name}' codec can't encode {what}: {fault.codec.reason}"

/-- The first run of code points of a text that an encoding does not have. -/
def Codec.fault? (codec : Codec) (s : String) : Option EncodingFault :=
  let all := points s.toList
  match all.dropWhile codec.covers with
  | [] => none
  | first :: rest => some
      ⟨codec, first, (all.takeWhile codec.covers).length,
        (rest.takeWhile fun n => !codec.covers n).length⟩

/-- Nothing, unless a text cannot be encoded. -/
def Codec.check (codec : Codec) (s : String) : Except EncodingFault Unit :=
  match codec.fault? s with
  | some fault => .error fault
  | none => .ok ()

end Automation.Text
