import Automation.Number
import Mathlib.Algebra.Order.Field.Basic
import Mathlib.Tactic.FieldSimp
import Mathlib.Tactic.Ring

/-!
# Exact values of numbers

An integer stands for itself, and a finite binary64 value for its significand times a power of two.
Numbers are compared by these values: no integer is rounded on the way.

## Main definitions

* `Number.value?` — the exact value of a number.
* `Number.SameValue` — two numbers have the same exact value.

## Main statements

* `Number.place?_eq_rational_iff` — where numbers lie on the line is their exact value.
* `Number.eqv_iff_sameValue` — equality of numbers is equality of exact values.
* `Number.le_iff_of_value?` — the order of numbers is the order of exact values.
* `Number.le_trans` — the order is transitive, infinities included.
-/

namespace Automation

/-- A power of two as a quotient of natural numbers: one of them is `1`, whichever sign the exponent
has. -/
theorem Binary64.two_zpow (exponent : ℤ) :
    (2 : ℚ) ^ exponent = 2 ^ exponent.toNat / 2 ^ (-exponent).toNat := by
  rw [← zpow_natCast, ← zpow_natCast, ← zpow_sub₀ two_ne_zero]
  congr 1
  omega

/-- The exact value of a finite number is its significand times a power of two. -/
theorem Binary64.toRat?_finite (negative : Bool) (significand : ℕ) (exponent : ℤ) :
    (Binary64.finite negative significand exponent).toRat? =
      some ((if negative then -1 else 1) * significand * 2 ^ exponent : ℚ) := by
  simp only [toRat?, inUnits, neg_neg, Nat.pow_eq, Rat.mkRat_eq_div, two_zpow exponent]
  cases negative <;> simp <;> ring

theorem Place.le_trans {a b c : Place} (hab : a.le b = true) (hbc : b.le c = true) :
    a.le c = true := by
  cases a with
  | least => rfl
  | greatest =>
    cases b with
    | least | rational _ => cases hab
    | greatest => exact hbc
  | rational p =>
    cases b with
    | least => cases hab
    | greatest =>
      cases c with
      | least | rational _ => cases hbc
      | greatest => rfl
    | rational q =>
      cases c with
      | least => cases hbc
      | greatest => rfl
      | rational r =>
        simp only [Place.le, decide_eq_true_eq] at hab hbc ⊢
        exact hab.trans hbc

namespace Number

/-- The exact value of a number; the infinities and NaN have none. -/
def value? : Number → Option ℚ
  | .int i => some i
  | .float (.finite negative significand exponent) =>
    some ((if negative then -1 else 1) * significand * 2 ^ exponent)
  | .float (.infinite _) | .float .nan => none

/-- Two numbers have the same exact value. -/
def SameValue (m n : Number) : Prop := ∃ q, m.value? = some q ∧ n.value? = some q

variable {m n : Number} {q : ℚ}

/-- A number lies where its exact value is. -/
theorem place?_eq_rational_iff : n.place? = some (.rational q) ↔ n.value? = some q := by
  cases n with
  | int i => simp [place?, value?]
  | float x =>
    cases x with
    | finite negative significand exponent =>
      simp [place?, value?, Binary64.place?, Binary64.toRat?_finite]
    | infinite negative => cases negative <;> simp [place?, value?, Binary64.place?]
    | nan => simp [place?, value?, Binary64.place?]

theorem isNaN_of_value? (h : n.value? = some q) : n.isNaN = false := by
  rcases n with i | (_ | _ | _)
  · rfl
  · rfl
  · rfl
  · cases h

theorem eqv_of_sameValue (h : m.SameValue n) : m.eqv n = true := by
  obtain ⟨q, hm, hn⟩ := h
  simp [eqv, place?_eq_rational_iff.mpr hm, place?_eq_rational_iff.mpr hn]

/-- A number with an exact value equals those that have the same. -/
theorem eqv_iff_sameValue (hm : m.value? = some q) : m.eqv n = true ↔ m.SameValue n := by
  refine ⟨fun h => ?_, eqv_of_sameValue⟩
  rw [eqv, place?_eq_rational_iff.mpr hm] at h
  split at h
  next p p' hp hp' =>
    obtain rfl := Option.some.inj hp
    obtain rfl : Place.rational q = p' := by simpa using h
    exact ⟨q, hm, place?_eq_rational_iff.mp hp'⟩
  · cases h

/-- Numbers with exact values are ordered as these are. -/
theorem le_iff_of_value? {p : ℚ} (hm : m.value? = some p) (hn : n.value? = some q) :
    m.le n = true ↔ p ≤ q := by
  simp [le, place?_eq_rational_iff.mpr hm, place?_eq_rational_iff.mpr hn, Place.le]

theorem le_eq_true_iff :
    m.le n = true ↔ ∃ p q, m.place? = some p ∧ n.place? = some q ∧ p.le q = true := by
  rw [le]
  split
  next p q hp hq => simp [hp, hq]
  next hnone =>
    refine iff_of_false Bool.false_ne_true ?_
    rintro ⟨p, q, hp, hq, -⟩
    exact hnone p q hp hq

/-- The order of numbers is transitive: a number between two others has one place only. -/
theorem le_trans {k : Number} (hmn : m.le n = true) (hnk : n.le k = true) : m.le k = true := by
  obtain ⟨a, b, ha, hb, hab⟩ := le_eq_true_iff.mp hmn
  obtain ⟨b', c, hb', hc, hbc⟩ := le_eq_true_iff.mp hnk
  obtain rfl : b = b' := Option.some.inj (hb.symm.trans hb')
  exact le_eq_true_iff.mpr ⟨a, c, ha, hc, Place.le_trans hab hbc⟩

end Number

end Automation
