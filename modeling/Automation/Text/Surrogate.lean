/-!
# Halves of surrogate pairs

The texts of the service are sequences of code points. Most of these are characters, but JSON text
may escape half of a surrogate pair alone, and such a half is kept although it is no character. It
is spelled by two characters: a mark, and a private character that tells the half. The mark itself,
where a text holds it as a character, and the sign that this is so, are spelled behind that sign.
Both are noncharacters, which Unicode leaves to programs for uses of this kind, so nearly every text
is spelled by its own characters.

Only code points can be told apart by what they spell, so texts that are put one behind another, cut
between code points or compared are handled by their characters.

## Main definitions

* `Text.isHalf` — whether a code point is half of a surrogate pair.
* `Text.spellPoint`, `Text.ofPoints`, `Text.spelled` — the characters that spell code points.
* `Text.points` — the code points that characters spell.
* `Text.hasHalf` — whether a text holds half of a surrogate pair.
* `Text.lossy` — a text with replacement characters for such halves.
-/

namespace Automation.Text

/-- Whether a code point is the first half of a surrogate pair. -/
def isHighHalf (n : Nat) : Bool := 0xD800 ≤ n && n < 0xDC00

/-- Whether a code point is the second half of a surrogate pair. -/
def isLowHalf (n : Nat) : Bool := 0xDC00 ≤ n && n < 0xE000

/-- Whether a code point is half of a surrogate pair. -/
def isHalf (n : Nat) : Bool := 0xD800 ≤ n && n < 0xE000

/-- The code point of two halves that fit. -/
def pairPoint (high low : Nat) : Nat := 0x10000 + (high - 0xD800) * 0x400 + (low - 0xDC00)

/-- The character in front of the one that tells a half. -/
def halfMark : Char := Char.ofNat 0x10FFFF

/-- The character in front of the one that tells which of the two marks is meant as itself. -/
def plainMark : Char := Char.ofNat 0x10FFFE

/-- The characters that spell a code point. -/
def spellPoint (n : Nat) : List Char :=
  if isHalf n then [halfMark, Char.ofNat (n + 0x800)]
  else if 0x10FFFE ≤ n then [plainMark, Char.ofNat (n - 0x100000)]
  else [Char.ofNat n]

/-- The text of code points. -/
def ofPoints (points : List Nat) : String := String.ofList (points.flatMap spellPoint)

/-- The text of characters, the marks among them. -/
def spelled (cs : List Char) : String := ofPoints (cs.map Char.toNat)

/-- The code points that characters spell. A mark in front of a character that tells nothing is
itself. -/
def points : List Char → List Nat
  | [] => []
  | [c] => [c.toNat]
  | c :: d :: rest =>
    if c = halfMark ∧ isHalf (d.toNat - 0x800) then (d.toNat - 0x800) :: points rest
    else if c = plainMark ∧ 0xFFFE ≤ d.toNat ∧ d.toNat ≤ 0xFFFF then
      (d.toNat + 0x100000) :: points rest
    else c.toNat :: points (d :: rest)

/-- Whether a text holds half of a surrogate pair. -/
def hasHalf (s : String) : Bool := s.toList.contains halfMark

/-- The code point that stands for what cannot be encoded. -/
def replacementPoint : Nat := 0xFFFD

/-- A code point as three replacements, one for each of its bytes, if it is a half. -/
def lossyPoint (n : Nat) : List Nat := if isHalf n then List.replicate 3 replacementPoint else [n]

/-- A text with replacement characters for halves of surrogate pairs. -/
def lossy (s : String) : String := ofPoints ((points s.toList).flatMap lossyPoint)

end Automation.Text
