import Automation.Text.Composition.Table

/-!
# Composed text

A text is composed when every character that could be written as one is written as one, and the
marks on a character stand in the order of their classes.

## Main definitions

* `Text.decomposed` — a text with every composite taken apart and its marks in order.
* `Text.composed` — such a text with everything put together again.
* `Text.isComposed` — whether a text is composed already.
-/

namespace Automation.Text

/-! ## Syllables of Hangul -/

/-- The first of the leading consonants, vowels and trailing consonants of Hangul; no consonant
trails before the first. -/
def firstLeading : Nat := 0x1100

def firstVowel : Nat := 0x1161

def firstTrailing : Nat := 0x11A7

/-- The first syllable of Hangul. -/
def firstSyllable : Nat := 0xAC00

/-- How many syllables there are. -/
def syllableCount : Nat := 19 * 21 * 28

/-- The letters of a syllable. -/
def syllableLetters (n : Nat) : List Nat :=
  let index := n - firstSyllable
  [firstLeading + index / (21 * 28), firstVowel + index % (21 * 28) / 28] ++
    (if index % 28 = 0 then [] else [firstTrailing + index % 28])

/-- The syllable of two letters, or of a syllable without a trailing consonant and one. -/
def syllable? (a b : Nat) : Option Nat :=
  if firstLeading ≤ a ∧ a < firstLeading + 19 ∧ firstVowel ≤ b ∧ b < firstVowel + 21 then
    some (firstSyllable + ((a - firstLeading) * 21 + (b - firstVowel)) * 28)
  else if firstSyllable ≤ a ∧ a < firstSyllable + syllableCount ∧ (a - firstSyllable) % 28 = 0 ∧
      firstTrailing < b ∧ b < firstTrailing + 28 then
    some (a + (b - firstTrailing))
  else none

/-! ## Taking apart -/

/-- The character that a character becomes with a mark. -/
def composite? (a b : Nat) : Option Nat :=
  syllable? a b <|> (compositesByMark.lookup b).bind (·.lookup a)

/-- The character and the mark that a composite is made of. -/
def parts? (n : Nat) : Option (Nat × Nat) :=
  compositesByMark.findSome? fun (mark, composites) =>
    (composites.find? (·.2 = n)).map fun entry => (entry.1, mark)

/-- The most marks that one character holds. -/
def maxMarks : Nat := 3

/-- What a character is made of, down to a number of marks. -/
def partsOf : Nat → Nat → List Nat
  | 0, n => [n]
  | fuel + 1, n =>
    if firstSyllable ≤ n ∧ n < firstSyllable + syllableCount then syllableLetters n
    else
      match parts? n with
      | some (a, mark) => partsOf fuel a ++ [mark]
      | none => [n]

/-- Put a character behind a text that is given from its end: in front of the marks of higher
classes. -/
def place : List Nat → Nat → List Nat
  | [], n => [n]
  | last :: before, n =>
    if combiningClass n ≠ 0 ∧ combiningClass n < combiningClass last then last :: place before n
    else n :: last :: before

/-- A text with every composite taken apart and its marks in order. -/
def decomposed (text : List Nat) : List Nat :=
  ((text.flatMap (partsOf maxMarks)).foldl place []).reverse

/-! ## Putting together -/

/-- A text that is being put together: what is finished, given from its end, the character that
takes the next marks, and the marks behind it that it did not take, given from their end. -/
structure Composing where
  finished : List Nat
  base? : Option Nat
  marks : List Nat

namespace Composing

/-- All of the text, given from its end. -/
def all (s : Composing) : List Nat := s.marks ++ s.base?.toList ++ s.finished

/-- Whether nothing stands between the base and a character that comes next. -/
def reaches (s : Composing) (n : Nat) : Bool :=
  match s.marks with
  | [] => true
  | last :: _ => combiningClass last < combiningClass n

/-- Add a character. -/
def add (s : Composing) (n : Nat) : Composing :=
  match (s.base?.filter fun _ => s.reaches n).bind (composite? · n) with
  | some composite => { s with base? := some composite }
  | none =>
    if combiningClass n = 0 then ⟨s.all, some n, []⟩
    else { s with marks := n :: s.marks }

end Composing

/-- A text taken apart, put together again. -/
def composed (text : List Nat) : List Nat :=
  (text.foldl Composing.add ⟨[], none, []⟩).all.reverse

/-- Whether a text is composed. -/
def isComposed (text : List Nat) : Bool :=
  !text.any isReplaced && composed (decomposed text) = text

end Automation.Text
