import Automation.Number.Binary64
import Mathlib.Algebra.Order.Ring.Nat
import Mathlib.Tactic.Ring

/-!
# Rounding to binary64

A quotient of natural numbers is rounded in units of a power of two, chosen so that it comes to 53
bits. For quotients below `2 ^ 53` the result is known once the unit is: it is the nearest multiple of
the unit, and the even one of two that are equally near.

## Main definitions

* `Binary64.Nearest` — a natural number is the nearest one to a quotient.

## Main statements

* `Binary64.roundHalfEven_eq` — quotients are rounded to the nearest number.
* `Binary64.ofQuotient_eq` — the binary64 value of a quotient, in units of a power of two.
* `Binary64.mul_eq`, `Binary64.truncate?_eq` — products and integer parts of such values.
-/

namespace Automation.Binary64

/-- A natural number is the nearest one to a quotient, and even if another one is as near. -/
structure Nearest (num den m : ℕ) : Prop where
  above : 2 * (m * den) ≤ 2 * num + den
  below : 2 * num ≤ 2 * (m * den) + den
  tie : 2 * (m * den) = 2 * num + den ∨ 2 * num = 2 * (m * den) + den → m % 2 = 0

variable {num den m u : ℕ}

/-- Quotients are rounded to the nearest natural number. -/
theorem roundHalfEven_eq (hden : 0 < den) (h : Nearest num den m) :
    roundHalfEven num den = m := by
  obtain ⟨habove, hbelow, htie⟩ := h
  have hsplit : den * (num / den) + num % den = num := Nat.div_add_mod num den
  have hmod : num % den < den := Nat.mod_lt num hden
  -- the nearest number is the whole part of the quotient or the one behind it
  have hlow : num / den ≤ m := by
    by_contra hlt
    have hmul : (m + 1) * den ≤ num / den * den := Nat.mul_le_mul_right den (by omega)
    rw [Nat.add_mul, Nat.one_mul, Nat.mul_comm (num / den)] at hmul
    omega
  have hhigh : m ≤ num / den + 1 := by
    by_contra hlt
    have hmul : (num / den + 2) * den ≤ m * den := Nat.mul_le_mul_right den (by omega)
    rw [Nat.add_mul, Nat.mul_comm (num / den)] at hmul
    omega
  rw [roundHalfEven]
  rcases (by omega : m = num / den ∨ m = num / den + 1) with rfl | rfl
  · rw [Nat.mul_comm (num / den)] at habove hbelow htie
    split
    · rfl
    · split
      · omega
      · rw [htie (by omega)]
        rfl
  · rw [Nat.add_mul, Nat.one_mul, Nat.mul_comm (num / den)] at habove hbelow htie
    split
    · omega
    · split
      · rfl
      · have := htie (by omega)
        omega

/-- A common factor of numerator and denominator plays no part. -/
theorem Nearest.scale (h : Nearest num den m) {factor : ℕ} (hpos : 0 < factor) :
    Nearest (num * factor) (den * factor) m := by
  have hm : 2 * (m * (den * factor)) = 2 * (m * den) * factor := by ring
  have hnum : 2 * (num * factor) = 2 * num * factor := by ring
  refine ⟨?_, ?_, ?_⟩
  · rw [hm, hnum, ← Nat.add_mul]
    exact Nat.mul_le_mul_right factor h.above
  · rw [hm, hnum, ← Nat.add_mul]
    exact Nat.mul_le_mul_right factor h.below
  · rw [hm, hnum, ← Nat.add_mul, ← Nat.add_mul]
    rintro (htie | htie)
    · exact h.tie (.inl (Nat.eq_of_mul_eq_mul_right hpos htie))
    · exact h.tie (.inr (Nat.eq_of_mul_eq_mul_right hpos htie))

/-! ## Units -/

theorem inUnits_neg (num den u : ℕ) : inUnits num den (-u) = (num * 2 ^ u, den) := by
  simp [inUnits]

theorem inUnits_natCast (num den u : ℕ) : inUnits num den u = (num, den * 2 ^ u) := by
  simp [inUnits]

/-- The unit in which a quotient comes to 53 bits. -/
theorem unitExponent_eq (hden : 0 < den) (hu : u < 1074) (hlow : 2 ^ 52 * den ≤ num * 2 ^ u)
    (hhigh : num * 2 ^ u < 2 ^ 53 * den) : unitExponent num den = -u := by
  have hnum : num ≠ 0 := by
    rintro rfl
    have : 0 < 2 ^ 52 * den := Nat.mul_pos (by decide) hden
    omega
  -- the lengths of numerator and denominator leave two guesses
  have hlower : 52 + den.log2 < num.log2 + 1 + u := by
    refine (Nat.pow_lt_pow_iff_right (a := 2) (by decide)).mp ?_
    calc 2 ^ (52 + den.log2)
      _ = 2 ^ 52 * 2 ^ den.log2 := Nat.pow_add 2 52 den.log2
      _ ≤ 2 ^ 52 * den := Nat.mul_le_mul_left _ (Nat.log2_self_le hden.ne')
      _ ≤ num * 2 ^ u := hlow
      _ < 2 ^ (num.log2 + 1) * 2 ^ u :=
        Nat.mul_lt_mul_of_pos_right Nat.lt_log2_self (Nat.two_pow_pos u)
      _ = 2 ^ (num.log2 + 1 + u) := (Nat.pow_add 2 _ u).symm
  have hupper : num.log2 + u < 53 + (den.log2 + 1) := by
    refine (Nat.pow_lt_pow_iff_right (a := 2) (by decide)).mp ?_
    calc 2 ^ (num.log2 + u)
      _ = 2 ^ num.log2 * 2 ^ u := Nat.pow_add 2 _ u
      _ ≤ num * 2 ^ u := Nat.mul_le_mul_right _ (Nat.log2_self_le hnum)
      _ < 2 ^ 53 * den := hhigh
      _ < 2 ^ 53 * 2 ^ (den.log2 + 1) :=
        Nat.mul_lt_mul_of_pos_left Nat.lt_log2_self (by decide)
      _ = 2 ^ (53 + (den.log2 + 1)) := (Nat.pow_add 2 53 _).symm
  rw [unitExponent]
  by_cases hlong : num.log2 + u = 53 + den.log2
  · have hguess : max minExponent ((num.log2 : ℤ) - den.log2 - 53) = -(u : ℤ) := by
      rw [minExponent]
      omega
    have hfits : ¬ 2 ^ 53 ≤ num * 2 ^ u / den := by
      rw [Nat.le_div_iff_mul_le hden]
      omega
    simp only [hguess, inUnits_neg, Nat.pow_eq, hfits, if_false]
  · have hguess : max minExponent ((num.log2 : ℤ) - den.log2 - 53) = -((u + 1 : ℕ) : ℤ) := by
      rw [minExponent]
      omega
    have hfits : 2 ^ 53 ≤ num * 2 ^ (u + 1) / den := by
      have hdouble : num * 2 ^ (u + 1) = 2 * (num * 2 ^ u) := by ring
      rw [Nat.le_div_iff_mul_le hden, hdouble]
      omega
    simp only [hguess, inUnits_neg, Nat.pow_eq, hfits, if_true]
    omega

/-- The binary64 value of a quotient is the nearest one. The quotient may be given with a common
factor of numerator and denominator. -/
theorem ofQuotient_eq {x y factor : ℕ} (hpos : 0 < factor) (hy : 0 < y) (hu : u < 1074)
    (hnum : num * 2 ^ u = x * factor) (hden : den = y * factor) (hlow : 2 ^ 52 * y ≤ x)
    (hhigh : x < 2 ^ 53 * y) (hnear : Nearest x y m) (hm : m < 2 ^ 53) (negative : Bool) :
    ofQuotient negative num den = .finite negative m (-u) := by
  have hden' : 0 < den := hden ▸ Nat.mul_pos hy hpos
  have hlow' : 2 ^ 52 * den ≤ num * 2 ^ u := by
    rw [hnum, hden, ← Nat.mul_assoc]
    exact Nat.mul_le_mul_right factor hlow
  have hhigh' : num * 2 ^ u < 2 ^ 53 * den := by
    rw [hnum, hden, ← Nat.mul_assoc]
    exact Nat.mul_lt_mul_of_pos_right hhigh hpos
  have hnonzero : num ≠ 0 := by
    rintro rfl
    have : 0 < 2 ^ 52 * den := Nat.mul_pos (by decide) hden'
    omega
  have hround : roundHalfEven (num * 2 ^ u) den = m := by
    refine roundHalfEven_eq hden' ?_
    rw [hnum, hden]
    exact hnear.scale hpos
  have hcarry : m ≠ 2 ^ 53 := hm.ne
  have hfinite : ¬ maxExponent < -(u : ℤ) := by
    rw [maxExponent]
    omega
  simp only [ofQuotient, hnonzero, if_false, unitExponent_eq hden' hu hlow' hhigh', inUnits_neg,
    hround, Nat.pow_eq, hcarry, hfinite]

/-! ## Products and integer parts -/

theorem mul_eq (s t : Bool) (m n u v : ℕ) :
    (Binary64.finite s m (-u)).mul (.finite t n (-v)) =
      ofQuotient (s != t) (m * n) (2 ^ (u + v)) := by
  have hexponent : -(-(u : ℤ) + -(v : ℤ)) = ((u + v : ℕ) : ℤ) := by omega
  simp only [mul, hexponent, inUnits_natCast, Nat.one_mul]

theorem truncate?_eq (s : Bool) (m u : ℕ) : (Binary64.finite s m (-u)).truncate? =
    some (if s then -((m / 2 ^ u : ℕ) : ℤ) else (m / 2 ^ u : ℕ)) := by
  simp only [truncate?, neg_neg, inUnits_natCast, Nat.one_mul]

theorem ofQuotient_zero (s : Bool) (den : ℕ) : ofQuotient s 0 den = zero s := by
  rw [ofQuotient, if_pos rfl]

/-- Zero times a finite value is cut off at zero. -/
theorem truncate?_zero_mul (s t : Bool) (n v : ℕ) :
    ((zero s).mul (.finite t n (-v))).truncate? = some 0 := by
  have hzero : ∀ s, zero s = .finite s 0 (-(1074 : ℕ)) := fun _ => rfl
  rw [hzero, mul_eq, Nat.zero_mul, ofQuotient_zero, hzero, truncate?_eq, Nat.zero_div]
  simp

end Automation.Binary64
