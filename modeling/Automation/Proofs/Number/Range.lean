import Automation.Proofs.Number.Exact
import Automation.Proofs.Number.Rounding
import Mathlib.Algebra.Order.Field.Power
import Mathlib.Tactic.Linarith

/-!
# The range of binary64

Quotients from the middle between the largest finite value and the next power of two on have no finite
binary64 value, and all smaller ones have one.

## Main definitions

* `Binary64.overflow` — the smallest magnitude that is rounded to an infinity.
* `Binary64.Unsigned` — a value that is not below zero.

## Main statements

* `Binary64.unitExponent_spec` — in its units, a quotient comes to 53 bits.
* `Binary64.isFinite_ofQuotient_iff` — exactly the quotients below the bound have finite values.
* `Binary64.ofQuotient_cases` — what quotients are rounded to.
-/

namespace Automation.Binary64

variable {num den m : ℕ}

/-- The smallest magnitude that is rounded to an infinity: the middle between the largest finite value
and the power of two behind it. -/
def overflow : ℕ := (2 ^ 54 - 1) * 2 ^ 970

/-! ## Quotients in units -/

theorem inUnits_snd_pos (num : ℕ) (hden : 0 < den) (e : ℤ) : 0 < (inUnits num den e).2 :=
  Nat.mul_pos hden (Nat.two_pow_pos _)

/-- The quotient in units is the quotient divided by the unit. -/
theorem inUnits_div (num den : ℕ) (e : ℤ) :
    ((inUnits num den e).1 : ℚ) / (inUnits num den e).2 = num / den / 2 ^ e := by
  rw [two_zpow]
  simp only [inUnits, Nat.pow_eq]
  push_cast
  field_simp

/-- Multiples of a quotient in units are compared as multiples of the quotient. -/
theorem inUnits_le_iff (num : ℕ) (hden : 0 < den) (e : ℤ) (a b : ℕ) :
    a * (inUnits num den e).2 ≤ b * (inUnits num den e).1 ↔ (a : ℚ) * 2 ^ e ≤ b * (num / den) := by
  have hpos : (0 : ℚ) < (inUnits num den e).2 := by exact_mod_cast inUnits_snd_pos num hden e
  have hunit : (0 : ℚ) < 2 ^ e := by positivity
  rw [← le_div_iff₀ hunit, mul_div_assoc, ← inUnits_div, ← mul_div_assoc, le_div_iff₀ hpos]
  exact_mod_cast Iff.rfl

theorem le_inUnits_iff (hden : 0 < den) (e : ℤ) :
    m ≤ (inUnits num den e).1 / (inUnits num den e).2 ↔ (m : ℚ) * 2 ^ e ≤ num / den := by
  rw [Nat.le_div_iff_mul_le (inUnits_snd_pos num hden e)]
  simpa using inUnits_le_iff num hden e m 1

theorem zpow_log2_le {n : ℕ} (hn : n ≠ 0) : (2 : ℚ) ^ (n.log2 : ℤ) ≤ n := by
  rw [zpow_natCast]
  exact_mod_cast Nat.log2_self_le hn

theorem lt_zpow_log2 (n : ℕ) : (n : ℚ) < 2 ^ ((n.log2 : ℤ) + 1) := by
  rw [← Nat.cast_succ, zpow_natCast]
  exact_mod_cast Nat.lt_log2_self

/-- The lengths of numerator and denominator leave two binary places for a quotient. -/
theorem quotient_bounds (hnum : num ≠ 0) (hden : 0 < den) :
    (2 : ℚ) ^ ((num.log2 : ℤ) - den.log2 - 1) ≤ num / den ∧
      (num : ℚ) / den < 2 ^ ((num.log2 : ℤ) - den.log2 + 1) := by
  have hpos : (0 : ℚ) < den := by exact_mod_cast hden
  constructor
  · rw [le_div_iff₀ hpos]
    calc (2 : ℚ) ^ ((num.log2 : ℤ) - den.log2 - 1) * den
      _ ≤ 2 ^ ((num.log2 : ℤ) - den.log2 - 1) * 2 ^ ((den.log2 : ℤ) + 1) := by
        gcongr
        exact (lt_zpow_log2 den).le
      _ = 2 ^ (num.log2 : ℤ) := by
        rw [← zpow_add₀ two_ne_zero]
        congr 1
        omega
      _ ≤ num := zpow_log2_le hnum
  · rw [div_lt_iff₀ hpos]
    calc (num : ℚ)
      _ < 2 ^ ((num.log2 : ℤ) + 1) := lt_zpow_log2 num
      _ = 2 ^ ((num.log2 : ℤ) - den.log2 + 1) * 2 ^ (den.log2 : ℤ) := by
        rw [← zpow_add₀ two_ne_zero]
        congr 1
        omega
      _ ≤ 2 ^ ((num.log2 : ℤ) - den.log2 + 1) * den := by
        gcongr
        exact zpow_log2_le hden.ne'

/-- In its units a quotient is below `2 ^ 53`, and at least `2 ^ 52` unless it is too small for
that. -/
theorem unitExponent_spec (hnum : num ≠ 0) (hden : 0 < den) :
    (num : ℚ) / den < 2 ^ 53 * 2 ^ unitExponent num den ∧
      minExponent ≤ unitExponent num den ∧
      (minExponent < unitExponent num den → 2 ^ 52 * 2 ^ unitExponent num den ≤ (num : ℚ) / den) := by
  obtain ⟨hlower, hupper⟩ := quotient_bounds hnum hden
  have hdouble : ∀ e : ℤ, (2 : ℚ) ^ (e + 1) = 2 * 2 ^ e := by
    intro e
    rw [zpow_add_one₀ two_ne_zero, mul_comm]
  rw [unitExponent]
  generalize hguess : max minExponent ((num.log2 : ℤ) - den.log2 - 53) = guess
  -- the guess is one too small or right
  have hbelow : (num : ℚ) / den < 2 ^ 54 * 2 ^ guess := by
    calc (num : ℚ) / den
      _ < 2 ^ ((num.log2 : ℤ) - den.log2 + 1) := hupper
      _ ≤ 2 ^ (54 + guess) := zpow_le_zpow_right₀ one_le_two (by omega)
      _ = 2 ^ 54 * 2 ^ guess := zpow_add₀ two_ne_zero 54 guess
  have habove : minExponent < guess → (2 : ℚ) ^ 52 * 2 ^ guess ≤ num / den := by
    intro hlarge
    calc (2 : ℚ) ^ 52 * 2 ^ guess
      _ = 2 ^ (52 + guess) := (zpow_add₀ two_ne_zero 52 guess).symm
      _ = 2 ^ ((num.log2 : ℤ) - den.log2 - 1) := by
        congr 1
        omega
      _ ≤ num / den := hlower
  have hmin : minExponent ≤ guess := hguess ▸ le_max_left _ _
  by_cases hlong : 2 ^ 53 ≤ (inUnits num den guess).1 / (inUnits num den guess).2
  · have hlong' : (2 : ℚ) ^ 53 * 2 ^ guess ≤ num / den := by
      exact_mod_cast (le_inUnits_iff hden guess).mp hlong
    simp only [Nat.pow_eq, hlong, if_true, hdouble]
    exact ⟨by linarith, by omega, fun _ => by linarith⟩
  · have hshort : (num : ℚ) / den < 2 ^ 53 * 2 ^ guess := by
      have hshort := mt (le_inUnits_iff hden guess).mpr hlong
      push_cast at hshort
      exact lt_of_not_ge hshort
    simp only [Nat.pow_eq, hlong, if_false]
    exact ⟨hshort, hmin, habove⟩

/-! ## Rounding up -/

/-- A quotient is rounded to its whole part or to the number behind it. -/
theorem roundHalfEven_bounds (num den : ℕ) :
    num / den ≤ roundHalfEven num den ∧ roundHalfEven num den ≤ num / den + 1 := by
  rw [roundHalfEven]
  split
  · omega
  · split
    · omega
    · omega

/-- A quotient of 53 bits is rounded to one more when it comes to the middle behind the last one. -/
theorem roundHalfEven_eq_pow_iff (hden : 0 < den) (h : num < 2 ^ 53 * den) :
    roundHalfEven num den = 2 ^ 53 ↔ (2 ^ 54 - 1) * den ≤ 2 * num := by
  have hsplit : den * (num / den) + num % den = num := Nat.div_add_mod num den
  have hmod : num % den < den := Nat.mod_lt num hden
  have hquotient : num / den < 2 ^ 53 := by rwa [Nat.div_lt_iff_lt_mul hden]
  constructor
  · intro hround
    have hlast : num / den = 2 ^ 53 - 1 := by
      have hmost := (roundHalfEven_bounds num den).2
      omega
    rw [hlast] at hsplit
    rw [roundHalfEven, hlast] at hround
    split at hround
    · omega
    · omega
  · intro hmiddle
    have hlast : num / den = 2 ^ 53 - 1 := Nat.div_eq_of_lt_le (by omega) (by omega)
    rw [hlast] at hsplit
    rw [roundHalfEven, hlast]
    split
    · omega
    · split
      · rfl
      · rfl

/-! ## Quotients without a finite value -/

theorem overflow_pos : 0 < overflow := by
  rw [overflow]
  positivity

theorem cast_overflow : ((overflow : ℕ) : ℚ) = (2 ^ 54 - 1) * 2 ^ (970 : ℤ) := by
  rw [overflow, Nat.cast_mul, Nat.cast_pow, Nat.cast_sub (by norm_num)]
  norm_num

theorem overflow_le_iff (hden : 0 < den) :
    overflow * den ≤ num ↔ (2 ^ 54 - 1 : ℚ) * 2 ^ (970 : ℤ) ≤ num / den := by
  have hpos : (0 : ℚ) < den := by exact_mod_cast hden
  rw [← cast_overflow, le_div_iff₀ hpos]
  exact_mod_cast Iff.rfl

/-- What a quotient is rounded to: at most 53 bits in a unit that the format has, or an infinity. -/
theorem ofQuotient_cases (negative : Bool) (num : ℕ) (hden : 0 < den) :
    (num < overflow * den ∧ ∃ significand exponent,
      ofQuotient negative num den = .finite negative significand exponent ∧
        significand < 2 ^ 53 ∧ exponent ≤ maxExponent ∧ (num = 0 → significand = 0) ∧
        (den ≤ num → significand ≠ 0)) ∨
    overflow * den ≤ num ∧ ofQuotient negative num den = .infinite negative := by
  by_cases hnum : num = 0
  · left
    subst hnum
    exact ⟨Nat.mul_pos overflow_pos hden, 0, minExponent, ofQuotient_zero negative den, by decide,
      by decide, fun _ => rfl, by omega⟩
  obtain ⟨hhigh, hmin, hlow⟩ := unitExponent_spec hnum hden
  rw [← not_le, overflow_le_iff hden, ofQuotient, if_neg hnum]
  generalize unitExponent num den = e at *
  have hpos : 0 < (inUnits num den e).2 := inUnits_snd_pos num hden e
  have hbits : (inUnits num den e).1 < 2 ^ 53 * (inUnits num den e).2 := by
    have hle := inUnits_le_iff num hden e (2 ^ 53) 1
    push_cast at hle
    rw [one_mul, one_mul] at hle
    exact not_le.mp (mt hle.mp hhigh.not_ge)
  have hwhole : (inUnits num den e).1 / (inUnits num den e).2 < 2 ^ 53 := by
    rwa [Nat.div_lt_iff_lt_mul hpos]
  obtain ⟨hleast, hmost⟩ := roundHalfEven_bounds (inUnits num den e).1 (inUnits num den e).2
  have hnonzero : den ≤ num → 1 ≤ (inUnits num den e).1 / (inUnits num den e).2 := by
    intro hle
    have hone : (1 : ℚ) ≤ num / den := by
      rw [one_le_div (by exact_mod_cast hden)]
      exact_mod_cast hle
    rw [le_inUnits_iff hden, Nat.cast_one, one_mul]
    obtain hsmall | hlarge := hmin.eq_or_lt
    · rw [← hsmall]
      exact (zpow_le_one_of_nonpos₀ one_le_two (by decide)).trans hone
    · exact (le_mul_of_one_le_left (by positivity) (by norm_num)).trans (hlow hlarge)
  have hcarry := roundHalfEven_eq_pow_iff hpos hbits
  rw [inUnits_le_iff num hden e] at hcarry
  push_cast at hcarry
  -- what the unit is, compared with the largest units of the format
  have h970 : e ≤ 970 → (2 : ℚ) ^ e ≤ 2 ^ (970 : ℤ) := zpow_le_zpow_right₀ one_le_two
  have h971 : e ≤ 971 → (2 : ℚ) ^ e ≤ 2 * 2 ^ (970 : ℤ) := by
    rw [← zpow_one_add₀ two_ne_zero]
    exact zpow_le_zpow_right₀ one_le_two
  have h971' : 971 ≤ e → 2 * 2 ^ (970 : ℤ) ≤ (2 : ℚ) ^ e := by
    rw [← zpow_one_add₀ two_ne_zero]
    exact zpow_le_zpow_right₀ one_le_two
  have h972 : 972 ≤ e → 2 ^ 2 * 2 ^ (970 : ℤ) ≤ (2 : ℚ) ^ e := by
    rw [← zpow_natCast 2 2, ← zpow_add₀ two_ne_zero]
    exact zpow_le_zpow_right₀ one_le_two
  have hunit : (0 : ℚ) < 2 ^ (970 : ℤ) := by positivity
  generalize (2 : ℚ) ^ (970 : ℤ) = unit at *
  simp only [Nat.pow_eq, maxExponent]
  by_cases h : roundHalfEven (inUnits num den e).1 (inUnits num den e).2 = 2 ^ 53
  · simp only [h, if_true]
    have hmiddle := hcarry.mp h
    by_cases hlarge : 971 < e + 1
    · have hunits := h971' (by omega)
      exact .inr ⟨by linarith, if_pos hlarge⟩
    · have hunits := h970 (by omega)
      exact .inl ⟨by linarith, 2 ^ 52, e + 1, if_neg hlarge, by norm_num, by omega,
        fun h => absurd h hnum, by norm_num⟩
  · simp only [h, if_false]
    have hmiddle := mt hcarry.mpr h
    by_cases hlarge : 971 < e
    · have hunits := h972 (by omega)
      have hfull := hlow (by rw [minExponent]; omega)
      exact .inr ⟨by linarith, if_pos hlarge⟩
    · have hunits := h971 (by omega)
      exact .inl ⟨by linarith, _, e, if_neg hlarge, by omega, by omega, fun h => absurd h hnum,
        by omega⟩

/-- A quotient has a finite value exactly when it is below the bound. -/
theorem isFinite_ofQuotient_iff (negative : Bool) (hden : 0 < den) :
    (ofQuotient negative num den).isFinite = true ↔ num < overflow * den := by
  obtain ⟨hlt, _, _, heq, -⟩ | ⟨hle, heq⟩ := ofQuotient_cases negative num hden
  · simp only [heq, isFinite, hlt]
  · simp only [heq, isFinite, hle.not_gt, Bool.false_eq_true]

theorem isFinite_ofInt_iff (i : ℤ) : (ofInt i).isFinite = true ↔ i.natAbs < overflow := by
  rw [ofInt, isFinite_ofQuotient_iff _ one_pos, mul_one]

theorem isFinite_ofInt_iff_lt {i : ℤ} (h : 0 ≤ i) : (ofInt i).isFinite = true ↔ i < overflow := by
  obtain ⟨n, rfl⟩ := Int.eq_ofNat_of_zero_le h
  rw [isFinite_ofInt_iff, Int.natAbs_natCast, Nat.cast_lt]

/-- An integer is not rounded to zero. -/
theorem isZero_ofInt_iff {i : ℤ} : (ofInt i).isZero = true ↔ i = 0 := by
  rw [ofInt]
  obtain ⟨-, significand, exponent, heq, -, -, hzero, hnonzero⟩ | ⟨hle, heq⟩ :=
    ofQuotient_cases (decide (i < 0)) i.natAbs one_pos
  · rw [heq, isZero, decide_eq_true_iff, ← Int.natAbs_eq_zero]
    exact ⟨fun h => by_contra fun hi => hnonzero (Nat.one_le_iff_ne_zero.mpr hi) h, hzero⟩
  · rw [heq]
    refine iff_of_false Bool.false_ne_true ?_
    rintro rfl
    exact absurd hle (Nat.mul_pos overflow_pos one_pos).not_ge

/-- A finite value that a quotient is rounded to is below the bound. -/
theorem value?_ofQuotient_lt (negative : Bool) (hden : 0 < den)
    (h : (ofQuotient negative num den).isFinite = true) :
    ∃ q, (Number.float (ofQuotient negative num den)).value? = some q ∧ q < overflow := by
  obtain ⟨-, significand, exponent, heq, hbits, hexponent, -⟩ | ⟨-, heq⟩ :=
    ofQuotient_cases negative num hden
  · rw [heq]
    refine ⟨_, rfl, ?_⟩
    have hsign : (if negative then -1 else 1 : ℚ) ≤ 1 := by
      split
      · norm_num
      · exact le_rfl
    have hbits' : (significand : ℚ) ≤ 2 ^ 53 - 1 := by
      have hcast : (significand : ℚ) + 1 ≤ 2 ^ 53 := by exact_mod_cast hbits
      linarith
    have hunit : (2 : ℚ) ^ exponent ≤ 2 * 2 ^ (970 : ℤ) := by
      rw [← zpow_one_add₀ two_ne_zero]
      exact zpow_le_zpow_right₀ one_le_two hexponent
    rw [cast_overflow]
    calc (if negative then -1 else 1 : ℚ) * significand * 2 ^ exponent
      _ ≤ 1 * (2 ^ 53 - 1) * (2 * 2 ^ (970 : ℤ)) := by gcongr
      _ < (2 ^ 54 - 1) * 2 ^ (970 : ℤ) := by
        have hpos : (0 : ℚ) < 2 ^ (970 : ℤ) := by positivity
        generalize (2 : ℚ) ^ (970 : ℤ) = unit at hpos
        linarith
  · rw [heq] at h
    cases h

/-! ## Values that are not below zero -/

/-- A value that is not below zero. A negative zero is one. -/
def Unsigned : Binary64 → Prop
  | .finite negative significand _ => negative = true → significand = 0
  | .infinite negative => negative = false
  | .nan => False

theorem unsigned_iff {x : Binary64} : x.Unsigned ↔ (Number.int 0).le (.float x) = true := by
  cases x with
  | finite negative significand exponent =>
    have hunit : (0 : ℚ) < 2 ^ exponent := by positivity
    rw [Number.le_iff_of_value? rfl rfl, Unsigned, Int.cast_zero]
    cases negative with
    | false => simp [hunit.le, mul_nonneg]
    | true =>
      have hvalue : (0 : ℚ) ≤ -1 * significand * 2 ^ exponent ↔
          ¬ 0 < significand * (2 : ℚ) ^ exponent := by
        rw [not_lt, neg_one_mul, neg_mul, neg_nonneg]
      rw [if_pos rfl, hvalue, mul_pos_iff_of_pos_right hunit]
      simp
  | infinite negative =>
    cases negative <;> simp [Unsigned, Number.le, Number.place?, place?, Place.le]
  | nan => simp [Unsigned, Number.le, Number.place?, place?]

theorem unsigned_ofQuotient {negative : Bool} (hden : 0 < den) (h : negative = true → num = 0) :
    (ofQuotient negative num den).Unsigned := by
  obtain ⟨-, significand, exponent, heq, -, -, hzero, -⟩ | ⟨hle, heq⟩ :=
    ofQuotient_cases negative num hden
  · rw [heq]
    exact fun hnegative => hzero (h hnegative)
  · rw [heq]
    have hnum : num ≠ 0 := by
      have := Nat.mul_pos overflow_pos hden
      omega
    exact Bool.eq_false_iff.mpr fun hnegative => hnum (h hnegative)

theorem unsigned_ofInt {i : ℤ} (h : 0 ≤ i) : (ofInt i).Unsigned := by
  refine unsigned_ofQuotient one_pos ?_
  simp [h.not_gt]

/-- The product of finite values is a rounded quotient. -/
theorem finite_mul (s t : Bool) (m n : ℕ) (e f : ℤ) :
    (finite s m e).mul (.finite t n f) = ofQuotient (s != t) (inUnits (m * n) 1 (-(e + f))).1
      (inUnits (m * n) 1 (-(e + f))).2 := rfl

/-- Only finite values have a finite product. -/
theorem isFinite_of_mul {x y : Binary64} (h : (x.mul y).isFinite = true) :
    x.isFinite = true ∧ y.isFinite = true := by
  cases x with
  | finite s m e =>
    cases y with
    | finite t n f => exact ⟨rfl, rfl⟩
    | infinite t =>
      rw [mul] at h
      split at h
      · cases h
      · cases h
    | nan => cases h
  | infinite s =>
    cases y with
    | finite t n f =>
      rw [mul] at h
      split at h
      · cases h
      · cases h
    | infinite t => cases h
    | nan => cases h
  | nan => cases h

/-- A finite product is below the bound. -/
theorem value?_mul_lt {x y : Binary64} (h : (x.mul y).isFinite = true) :
    ∃ q, (Number.float (x.mul y)).value? = some q ∧ q < overflow := by
  obtain ⟨hx, hy⟩ := isFinite_of_mul h
  cases x with
  | infinite | nan => cases hx
  | finite s m e =>
    cases y with
    | infinite | nan => cases hy
    | finite t n f =>
      rw [finite_mul] at h ⊢
      exact value?_ofQuotient_lt _ (inUnits_snd_pos _ one_pos _) h

/-- A value that is not below zero times infinity. -/
theorem mul_infinite {x : Binary64} (hx : x.Unsigned) (hfinite : x.isFinite = true) :
    x.mul (.infinite false) = if x.isZero then .nan else .infinite false := by
  cases x with
  | infinite | nan => cases hfinite
  | finite s m e =>
    by_cases hm : m = 0
    · simp [mul, isZero, hm]
    · have hs : s = false := Bool.eq_false_iff.mpr fun hs => hm (hx hs)
      simp [mul, isZero, hm, hs]

/-- A product of finite values that are not below zero is not below zero. -/
theorem unsigned_mul {x y : Binary64} (hx : x.Unsigned) (hy : y.Unsigned) (hxf : x.isFinite = true)
    (hyf : y.isFinite = true) : (x.mul y).Unsigned := by
  cases x with
  | infinite | nan => cases hxf
  | finite s m e =>
    cases y with
    | infinite | nan => cases hyf
    | finite t n f =>
      rw [finite_mul]
      refine unsigned_ofQuotient (inUnits_snd_pos _ one_pos _) ?_
      intro hsigns
      have hzero : m * n = 0 := by
        cases s with
        | true => rw [hx rfl, Nat.zero_mul]
        | false =>
          have ht : t = true := by simpa using hsigns
          rw [hy ht, Nat.mul_zero]
      simp [inUnits, hzero]

end Automation.Binary64
