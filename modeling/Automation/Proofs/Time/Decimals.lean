import Automation.Json.Reader
import Automation.Time.Timestamp
import Mathlib.Algebra.Group.Nat.Defs

/-!
# Decimal digits of fixed width

Numbers in decimal with zeros in front up to a width, digit by digit, and how they are read back.

## Main definitions

* `Text.decimals` — the digits of a number of a width.

## Main statements

* `Timestamp.toList_padded` — a number that fits a width is written with the digits of that width.
* `Json.spanDigits_decimals`, `Text.ofDigits_decimals` — digits are read back as the number.
-/

namespace Automation

namespace Text

/-- The last decimal digits of a number, as many as a width. -/
def decimals : Nat → Nat → List Char
  | 0, _ => []
  | width + 1, n => decimals width (n / 10) ++ [Nat.digitChar (n % 10)]

theorem decimals_zero (width : Nat) : decimals width 0 = List.replicate width '0' := by
  induction width with
  | zero => rfl
  | succ width ih =>
    rw [decimals, Nat.zero_div, ih, List.replicate_succ']
    rfl

theorem asciiDigit?_digitChar {d : Nat} (h : d < 10) : asciiDigit? (Nat.digitChar d) = some d := by
  have hall : ∀ d < 10, asciiDigit? (Nat.digitChar d) = some d := by decide
  exact hall d h

theorem isDigit_digitChar {d : Nat} (h : d < 10) : (Nat.digitChar d).isDigit = true := by
  have hall : ∀ d < 10, (Nat.digitChar d).isDigit = true := by decide
  exact hall d h

theorem isDigit_of_mem_decimals {width n : Nat} {c : Char} (h : c ∈ decimals width n) :
    c.isDigit = true := by
  induction width generalizing n with
  | zero => cases h
  | succ width ih =>
    rcases List.mem_append.mp h with h | h
    · exact ih h
    · rw [List.mem_singleton.mp h]
      exact isDigit_digitChar (Nat.mod_lt n (by decide))

theorem ofDigits_concat (digits : List Nat) (d : Nat) :
    ofDigits (digits ++ [d]) = 10 * ofDigits digits + d := by
  simp [ofDigits]

/-- The digits of a number that fits their width spell it. -/
theorem ofDigits_decimals {width n : Nat} (h : n < 10 ^ width) :
    ofDigits ((decimals width n).filterMap asciiDigit?) = n := by
  induction width generalizing n with
  | zero =>
    obtain rfl : n = 0 := by simpa using h
    rfl
  | succ width ih =>
    have hfront : n / 10 < 10 ^ width := by
      rw [Nat.pow_succ] at h
      omega
    rw [decimals, List.filterMap_append, List.filterMap_cons,
      asciiDigit?_digitChar (Nat.mod_lt n (by decide)), List.filterMap_nil, ofDigits_concat,
      ih hfront]
    omega

theorem length_filterMap_decimals (width n : Nat) :
    ((decimals width n).filterMap asciiDigit?).length = width := by
  induction width generalizing n with
  | zero => rfl
  | succ width ih =>
    rw [decimals, List.filterMap_append, List.filterMap_cons,
      asciiDigit?_digitChar (Nat.mod_lt n (by decide)), List.filterMap_nil, List.length_append, ih]
    rfl

end Text

open Text

/-- Digits in front of something else are read up to there. -/
theorem Json.spanDigits_decimals (width n : Nat) {rest : List Char}
    (h : ∀ c ∈ rest.head?, c.isDigit = false) : Json.spanDigits (decimals width n ++ rest) =
      ((decimals width n).filterMap asciiDigit?, rest) := by
  have hdigits : ∀ c ∈ decimals width n, c.isDigit = true := fun c => isDigit_of_mem_decimals
  have hrest : rest.takeWhile Char.isDigit = [] ∧ rest.dropWhile Char.isDigit = rest := by
    cases rest with
    | nil => exact ⟨rfl, rfl⟩
    | cons c rest => simp [h c rfl]
  rw [Json.spanDigits, List.takeWhile_append_of_pos hdigits, List.dropWhile_append_of_pos hdigits,
    hrest.1, hrest.2, List.append_nil]

theorem Text.toList_pushn (s : String) (c : Char) (n : Nat) :
    (s.pushn c n).toList = s.toList ++ List.replicate n c := by
  have hrepeat : ∀ n : Nat, (n.repeat (fun s => s.push c) s).toList =
      s.toList ++ List.replicate n c := by
    intro n
    induction n with
    | zero => simp [Nat.repeat]
    | succ n ih => rw [Nat.repeat, String.toList_push, ih, List.replicate_succ', List.append_assoc]
  exact hrepeat n

/-- A number that fits a width is written with the digits of that width. -/
theorem Timestamp.toList_padded {width n : Nat} (hwidth : 0 < width) (h : n < 10 ^ width) :
    (Timestamp.padded width n).toList = decimals width n := by
  have htext : ∀ {width n : Nat}, 0 < width → n < 10 ^ width →
      List.replicate (width - (Nat.toDigits 10 n).length) '0' ++ Nat.toDigits 10 n =
        decimals width n := by
    intro width
    induction width with
    | zero => exact fun hwidth _ => absurd hwidth (Nat.lt_irrefl 0)
    | succ width ih =>
      intro n _ h
      rw [Nat.toDigits_eq_if (by decide)]
      by_cases hn : n < 10
      · rw [if_pos hn, decimals, Nat.div_eq_of_lt hn, decimals_zero, Nat.mod_eq_of_lt hn]
        rfl
      · have hfront : n / 10 < 10 ^ width := by
          rw [Nat.pow_succ] at h
          omega
        have hwidth : 0 < width := by
          refine Nat.pos_of_ne_zero fun hzero => ?_
          subst hzero
          simp at h
          omega
        rw [if_neg hn, decimals, ← ih hwidth hfront, List.length_append, List.length_singleton,
          Nat.add_sub_add_right, List.append_assoc]
  rw [← htext hwidth h]
  have hlength : n.repr.length = (Nat.toDigits 10 n).length := by
    rw [Nat.repr_eq_ofList_toDigits, String.length_ofList]
  simp [Timestamp.padded, Text.toList_pushn, hlength]

end Automation
