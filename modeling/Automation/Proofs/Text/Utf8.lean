import Automation.Text.Utf8

/-!
# Characters and their bytes

The bytes of a character are read as that character, whatever bytes follow: the first one opens a
character with as many bytes to come as there are, and each of the others is in the range that is
left for it.

## Main statements

* `Text.decodeUtf8_utf8EncodeChar` — the bytes of a character are read as the character.
* `Text.ofUtf8_flatMap` — the bytes of a text are read as the text.
-/

namespace Automation.Text

variable {rest : List UInt8} {bits low high : Nat} {range : Nat × Nat}
  {ranges : List (Nat × Nat)}

/-! ## Single bytes -/

theorem toNat_ofNat_of_lt {n : Nat} (h : n < 256) : (UInt8.ofNat n).toNat = n := by
  rw [UInt8.toNat_ofNat', Nat.mod_eq_of_lt h]

/-- A byte that is a character, whatever follows. -/
theorem decodeUtf8_whole {n : Nat} (h : n < 128) :
    decodeUtf8 none (UInt8.ofNat n :: rest) = Char.ofNat n :: decodeUtf8 none rest := by
  have hlead : Lead.ofByte n = .whole (Char.ofNat n) := if_pos h
  simp [decodeUtf8, startCharacter, toNat_ofNat_of_lt (Nat.lt_trans h (by decide)), hlead]

/-- A byte that opens a character. -/
theorem decodeUtf8_opens {n : Nat} (hn : n < 256) (h : Lead.ofByte n = .opens bits ranges) :
    decodeUtf8 none (UInt8.ofNat n :: rest) = decodeUtf8 (some (bits, ranges)) rest := by
  simp [decodeUtf8, startCharacter, toNat_ofNat_of_lt hn, h]

/-- A byte behind the first one gives six bits, and others follow. -/
theorem decodeUtf8_continues {n : Nat} (hn : n < 64) (hlow : low ≤ n + 128)
    (hhigh : n + 128 ≤ high) :
    decodeUtf8 (some (bits, (low, high) :: range :: ranges)) (UInt8.ofNat (n + 128) :: rest) =
      decodeUtf8 (some (bits * 64 + n, range :: ranges)) rest := by
  have hbits : (n + 128) % 64 = n := by omega
  have hbyte := @toNat_ofNat_of_lt (n + 128) (by omega)
  generalize UInt8.ofNat (n + 128) = byte at hbyte ⊢
  simp [decodeUtf8, continueCharacter, hbyte, hlow, hhigh, hbits]

/-- A byte behind the first one gives six bits, and none follows. -/
theorem decodeUtf8_completes {n : Nat} (hn : n < 64) (hlow : low ≤ n + 128)
    (hhigh : n + 128 ≤ high) :
    decodeUtf8 (some (bits, [(low, high)])) (UInt8.ofNat (n + 128) :: rest) =
      Char.ofNat (bits * 64 + n) :: decodeUtf8 none rest := by
  have hbits : (n + 128) % 64 = n := by omega
  have hbyte := @toNat_ofNat_of_lt (n + 128) (by omega)
  generalize UInt8.ofNat (n + 128) = byte at hbyte ⊢
  simp [decodeUtf8, continueCharacter, hbyte, hlow, hhigh, hbits]

/-! ## First bytes -/

theorem ofByte_two {n : Nat} (hlow : 2 ≤ n) (hhigh : n < 32) :
    Lead.ofByte (n + 192) = .opens n [continuation] := by
  unfold Lead.ofByte
  rw [if_neg (by omega), if_neg (by omega), if_pos (by omega), Nat.add_sub_cancel]

/-- The first of three bytes leaves a range for the second one, `k` above the least, that keeps out
overlong forms and surrogates. -/
theorem ofByte_three {n k : Nat} (hn : n < 16) (hk : k < 64) (hlong : 32 ≤ n * 64 + k)
    (hvalid : n * 64 + k < 864 ∨ 896 ≤ n * 64 + k) :
    ∃ low high, Lead.ofByte (n + 224) = .opens n [(low, high), continuation] ∧
      low ≤ k + 128 ∧ k + 128 ≤ high := by
  unfold Lead.ofByte
  rw [if_neg (by omega), if_neg (by omega), if_neg (by omega)]
  split
  next hfirst =>
    obtain rfl : n = 0 := by omega
    exact ⟨_, _, rfl, by omega, by omega⟩
  next =>
    split
    next hsurrogate =>
      obtain rfl : n = 13 := by omega
      exact ⟨_, _, rfl, by omega, by omega⟩
    next =>
      rw [if_pos (by omega), Nat.add_sub_cancel]
      exact ⟨_, _, rfl, by omega, by omega⟩

/-- The first of four bytes leaves a range for the second one, `k` above the least, that keeps out
overlong forms and what is beyond all characters. -/
theorem ofByte_four {n k : Nat} (hk : k < 64) (hlong : 16 ≤ n * 64 + k)
    (hvalid : n * 64 + k < 272) :
    ∃ low high, Lead.ofByte (n + 240) = .opens n [(low, high), continuation, continuation] ∧
      low ≤ k + 128 ∧ k + 128 ≤ high := by
  unfold Lead.ofByte
  rw [if_neg (by omega), if_neg (by omega), if_neg (by omega), if_neg (by omega),
    if_neg (by omega), if_neg (by omega)]
  split
  next hfirst =>
    obtain rfl : n = 0 := by omega
    exact ⟨_, _, rfl, by omega, by omega⟩
  next =>
    split
    next hmiddle =>
      rw [Nat.add_sub_cancel]
      exact ⟨_, _, rfl, by omega, by omega⟩
    next =>
      obtain rfl : n = 4 := by omega
      rw [if_pos rfl]
      exact ⟨_, _, rfl, by omega, by omega⟩

/-! ## Characters -/

/-- The bytes of a character are read as the character, whatever follows. -/
theorem decodeUtf8_utf8EncodeChar (c : Char) (rest : List UInt8) :
    decodeUtf8 none (String.utf8EncodeChar c ++ rest) = c :: decodeUtf8 none rest := by
  have hvalid : c.toNat < 55296 ∨ 57343 < c.toNat ∧ c.toNat < 1114112 := c.valid
  have hchar : ∀ {n : Nat}, n = c.toNat → Char.ofNat n = c := fun h => h ▸ Char.ofNat_toNat c
  have hval : c.val.toNat = c.toNat := rfl
  -- one case for each number of bytes; the bits of the bytes make up the character again
  unfold String.utf8EncodeChar
  simp only [hval]
  split
  · rw [List.singleton_append, decodeUtf8_whole (by omega), hchar rfl]
  split
  next htwo =>
    have hlead := @ofByte_two (c.toNat / 64 % 32) (by omega) (by omega)
    simp only [List.cons_append, List.nil_append]
    rw [decodeUtf8_opens (by omega) hlead, continuation,
      decodeUtf8_completes (by omega) (by omega) (by omega), hchar (by omega)]
  split
  next hthree =>
    obtain ⟨low, high, hlead, hlow, hhigh⟩ := @ofByte_three (c.toNat / 4096 % 16)
      (c.toNat / 64 % 64) (by omega) (by omega) (by omega) (by omega)
    simp only [List.cons_append, List.nil_append]
    rw [decodeUtf8_opens (by omega) hlead, continuation,
      decodeUtf8_continues (by omega) hlow hhigh,
      decodeUtf8_completes (by omega) (by omega) (by omega), hchar (by omega)]
  next hfour =>
    obtain ⟨low, high, hlead, hlow, hhigh⟩ := @ofByte_four (c.toNat / 262144 % 8)
      (c.toNat / 4096 % 64) (by omega) (by omega) (by omega)
    simp only [List.cons_append, List.nil_append]
    rw [decodeUtf8_opens (by omega) hlead, continuation,
      decodeUtf8_continues (by omega) hlow hhigh,
      decodeUtf8_continues (by omega) (by omega) (by omega),
      decodeUtf8_completes (by omega) (by omega) (by omega), hchar (by omega)]

/-- The bytes of a text are read as the text. -/
theorem ofUtf8_flatMap (cs : List Char) : ofUtf8 (cs.flatMap String.utf8EncodeChar) = cs := by
  rw [ofUtf8]
  induction cs with
  | nil => rfl
  | cons c rest ih => rw [List.flatMap_cons, decodeUtf8_utf8EncodeChar, ih]

end Automation.Text
