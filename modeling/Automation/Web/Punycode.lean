import Automation.Text.Integer

/-!
# Punycode

Host name labels in other scripts as ASCII text: the ASCII characters of the label first, then the
others in ascending order, each as the distance from the one before in variable-length digits.

## Main definitions

* `Punycode.encode` — the ASCII form of a label, without the mark that announces it.
* `Punycode.decode?` — the label of an ASCII form.
-/

namespace Automation.Punycode

/-- The character of a digit in base 36: letters first. -/
def digitChar (d : Nat) : Char :=
  if d < 26 then Char.ofNat ('a'.toNat + d) else Char.ofNat ('0'.toNat + (d - 26))

/-- The threshold of the digit at position `k`. -/
def threshold (k bias : Nat) : Nat := max 1 (min 26 (k - bias))

/-- The digits of a number, with fuel for their count. -/
def digits (bias : Nat) : Nat → Nat → Nat → List Char
  | 0, _, _ => []
  | fuel + 1, k, q =>
    let t := threshold k bias
    if q < t then [digitChar q]
    else digitChar (t + (q - t) % (36 - t)) :: digits bias fuel (k + 36) ((q - t) / (36 - t))

/-- Divide a distance until it is small, counting the positions. -/
def scaled : Nat → Nat → Nat → Nat × Nat
  | 0, delta, k => (delta, k)
  | fuel + 1, delta, k => if 455 < delta then scaled fuel (delta / 35) (k + 36) else (delta, k)

/-- The bias after a distance has been written as the one that leads to the `count`-th
character. -/
def adapted (delta count : Nat) (isFirst : Bool) : Nat :=
  let halved := if isFirst then delta / 700 else delta / 2
  let (rest, k) := scaled halved.log2 (halved + halved / count) 0
  k + 36 * rest / (rest + 38)

/-- What has been written, the distance since then, the bias and the number of characters done. -/
structure State where
  written : List Char
  delta : Nat
  bias : Nat
  done : Nat

/-- Pass one character of the label while writing the occurrences of `point`. -/
def pass (basic point : Nat) (s : State) (c : Char) : State :=
  if c.toNat < point then { s with delta := s.delta + 1 }
  else if c.toNat = point then
    ⟨s.written ++ digits s.bias (s.delta.log2 + 2) 36 s.delta, 0,
      adapted s.delta (s.done + 1) (s.done = basic), s.done + 1⟩
  else s

/-- Write the occurrences of all points, given in ascending order; `next` is the first point not
yet passed. -/
def writePoints (label : List Char) (basic : Nat) : List Nat → Nat → State → State
  | [], _, s => s
  | point :: rest, next, s =>
    let reached := { s with delta := s.delta + (point - next) * (s.done + 1) }
    let after := label.foldl (pass basic point) reached
    writePoints label basic rest (point + 1) { after with delta := after.delta + 1 }

/-- The ASCII form of a label. -/
def encode (label : List Char) : List Char :=
  let basic := label.filter fun c => c.toNat < 128
  let points := ((label.map Char.toNat).filter (128 ≤ ·)).eraseDups.mergeSort
  let extended := (writePoints label basic.length points 128 ⟨[], 0, 72, basic.length⟩).written
  (if basic.isEmpty then [] else basic ++ ['-']) ++ extended

/-! ## Decoding -/

/-- The value of a digit in base 36. -/
def digitValue? (c : Char) : Option Nat :=
  let c := c.toLower
  if 'a' ≤ c ∧ c ≤ 'z' then some (c.toNat - 'a'.toNat)
  else (Text.asciiDigit? c).map (26 + ·)

/-- The distance that the digits in front of a text spell, on top of what has been read with the
weight of the next digit, and the rest of the text. -/
def readDistance? (bias : Nat) : List Char → Nat → Nat → Nat → Option (Nat × List Char)
  | [], _, _, _ => none
  | c :: rest, k, weight, sum =>
    match digitValue? c with
    | none => none
    | some d =>
      let t := threshold k bias
      let sum := sum + d * weight
      if d < t then some (sum, rest) else readDistance? bias rest (k + 36) (weight * (36 - t)) sum

/-- Reading a distance takes at least one digit. -/
theorem length_lt_of_readDistance? {bias : Nat} {text rest : List Char} {k weight sum d : Nat}
    (h : readDistance? bias text k weight sum = some (d, rest)) : rest.length < text.length := by
  induction text generalizing k weight sum with
  | nil => simp [readDistance?] at h
  | cons c tail ih =>
    rw [readDistance?] at h
    split at h
    · simp at h
    · dsimp only at h
      split at h
      · cases h
        simp
      · have := ih h
        simp only [List.length_cons]
        omega

/-- The largest code point. -/
def maxPoint : Nat := 0x10FFFF

/-- A label while it is read: its code points so far, the last point inserted, where a distance of
zero leads to, the bias, and whether no distance has been read. -/
structure Reading where
  label : List Nat
  point : Nat
  next : Nat
  bias : Nat
  isFirst : Bool

/-- The label with the character inserted that a distance leads to. -/
def Reading.insert? (r : Reading) (distance : Nat) : Option Reading :=
  let count := r.label.length + 1
  let reached := r.next + distance
  let point := r.point + reached / count
  let place := reached % count
  if maxPoint < point then none
  else some ⟨r.label.insertIdx place point, point, place + 1,
    adapted distance count r.isFirst, false⟩

/-- Insert the characters that the distances in a text spell. -/
def insertPoints? (r : Reading) (text : List Char) : Option (List Nat) :=
  if text.isEmpty then some r.label
  else
    match _h : readDistance? r.bias text 36 1 0 with
    | none => none
    | some (distance, rest) =>
      match r.insert? distance with
      | none => none
      | some r => insertPoints? r rest
  termination_by text.length
  decreasing_by exact length_lt_of_readDistance? _h

/-- The code points of the label that an ASCII form stands for: the characters in front of its
last hyphen, and those that the distances behind it spell. -/
def decode? (text : List Char) : Option (List Nat) :=
  let behind := (text.reverse.takeWhile (· ≠ '-')).reverse
  let basic := (text.take (text.length - behind.length)).dropLast
  insertPoints? ⟨basic.map Char.toNat, 128, 0, 72, true⟩ behind

end Automation.Punycode
