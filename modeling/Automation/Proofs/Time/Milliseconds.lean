import Automation.Proofs.Number.Rounding
import Automation.Proofs.Time.Calendar
import Automation.Time.Timestamp

/-!
# Milliseconds by way of seconds

The milliseconds of a timestamp are computed from its seconds, which are rounded to binary64, times a
thousand, which is rounded again and cut off. For an instant at a whole millisecond this gives that
millisecond, except where the seconds have just passed a power of two: there the units in which
milliseconds are rounded are only half as fine, compared with those of seconds, as they are elsewhere,
and a millisecond is lost when the seconds have been rounded down by more than a quarter of a unit.

## Main definitions

* `Timestamp.Slips` — the counts of milliseconds that come out one too small.

## Main statements

* `Timestamp.ofQuotient_seconds` — the rounded seconds of a number of milliseconds.
* `Timestamp.truncate?_millis` — the milliseconds that come back from the seconds.
* `Timestamp.not_slips_of_between`, `Timestamp.not_slips_of_dvd` — milliseconds that are kept.
* `Timestamp.epochMillis_eq` — the milliseconds of a timestamp at a whole millisecond.
-/

namespace Automation.Timestamp

open Binary64

/-- A number of milliseconds comes out one too small: its seconds are at least a power of two and less
than 1.024 times as much, and between 0.256 and 0.5 of the last binary place is lost when they are
rounded. -/
def Slips (n : ℕ) : Prop :=
  ∃ k < 53, 1000 * 2 ^ k ≤ n ∧ n < 1024 * 2 ^ k ∧
    256 < 2 ^ (52 - k) * n % 1000 ∧ 2 ^ (52 - k) * n % 1000 < 500

instance : DecidablePred Slips := fun _ => inferInstanceAs (Decidable (∃ k < 53, _))

variable {n w t : ℕ}

/-! ## Nearest numbers -/

theorem nearest_seconds (t : ℕ) : Nearest (1024 * t) 1000 ((1024 * t + 500) / 1000) := by
  constructor <;> omega

theorem nearest_millis (t : ℕ) : Nearest (1000 * ((1024 * t + 500) / 1000)) 1024 t := by
  constructor <;> omega

/-- Just behind a power of two the nearest number is the even one in the middle or one of its
neighbours, by what was lost or gained when the seconds were rounded. -/
theorem nearest_millis_of_lt (hpos : 0 < t) :
    Nearest (1000 * ((1024 * t + 500) / 1000)) 512
      (if 256 < 1024 * t % 1000 ∧ 1024 * t % 1000 < 500 then 2 * t - 1
        else if 500 < 1024 * t % 1000 ∧ 1024 * t % 1000 < 744 then 2 * t + 1 else 2 * t) := by
  have hsplit : 1000 * (1024 * t / 1000) + 1024 * t % 1000 = 1024 * t := Nat.div_add_mod _ 1000
  -- what is lost is a multiple of eight, and so never exactly half of a unit
  have height : 1024 * t % 1000 % 8 = 0 := by omega
  have hmod : 1024 * t % 1000 < 1000 := Nat.mod_lt _ (by decide)
  have hround : (1024 * t + 500) / 1000 =
      if 1024 * t % 1000 < 500 then 1024 * t / 1000 else 1024 * t / 1000 + 1 := by
    split <;> omega
  rw [hround]
  generalize 1024 * t / 1000 = q at *
  generalize 1024 * t % 1000 = r at *
  by_cases hdown : r < 500
  · rw [if_pos hdown]
    by_cases hlost : 256 < r
    · rw [if_pos ⟨hlost, hdown⟩]
      constructor <;> omega
    · rw [if_neg (fun h => hlost h.1), if_neg (fun h => absurd h.1 (by omega))]
      constructor <;> omega
  · rw [if_neg hdown, if_neg (fun h => hdown h.2)]
    by_cases hgained : 500 < r ∧ r < 744
    · rw [if_pos hgained]
      constructor <;> omega
    · rw [if_neg hgained]
      constructor <;> omega

/-! ## Seconds and back -/

/-- The seconds of a number of milliseconds, in a unit in which they come to 53 bits. -/
theorem ofQuotient_seconds (hw : w ≤ 52) (hlow : 2 ^ 52 * 1000 ≤ 1024 * (n * 2 ^ w))
    (hhigh : 1024 * (n * 2 ^ w) < 2 ^ 53 * 1000) (negative : Bool) :
    ofQuotient negative (n * 1000) 1000000 =
      .finite negative ((1024 * (n * 2 ^ w) + 500) / 1000) (-(w + 10 : ℕ)) := by
  have hnum : n * 1000 * 2 ^ (w + 10) = 1024 * (n * 2 ^ w) * 1000 := by ring
  exact ofQuotient_eq (by decide) (by decide) (by omega) hnum rfl hlow hhigh
    (nearest_seconds _) (by omega) negative

theorem ofInt_thousand : ofInt 1000 = .finite false (1000 * 2 ^ 43) (-(43 : ℕ)) := by decide

/-- Seconds times a thousand are the nearest multiple of the unit of milliseconds. -/
theorem mul_thousand {m p u v y : ℕ} (hu : 2 ^ u = y * 2 ^ v) (hv : v ≤ 53) (hy : 0 < y)
    (hlow : 2 ^ 52 * y ≤ 1000 * m) (hhigh : 1000 * m < 2 ^ 53 * y)
    (hnear : Nearest (1000 * m) y p) (hp : p < 2 ^ 53) (negative : Bool) :
    (Binary64.finite negative m (-u)).mul (ofInt 1000) = .finite negative p (-v) := by
  have hnum : m * (1000 * 2 ^ 43) * 2 ^ v = 1000 * m * (2 ^ v * 2 ^ 43) := by ring
  have hden : 2 ^ (u + 43) = y * (2 ^ v * 2 ^ 43) := by rw [Nat.pow_add, hu, Nat.mul_assoc]
  have hpos : 0 < 2 ^ v * 2 ^ 43 := Nat.mul_pos (Nat.two_pow_pos v) (by decide)
  rw [ofInt_thousand, mul_eq, Bool.bne_false]
  exact ofQuotient_eq hpos hy (by omega) hnum hden hlow hhigh hnear hp negative

/-- A number of milliseconds in units of seconds and of milliseconds: it fills the units of
milliseconds, or its seconds have just passed a power of two and it does not. -/
theorem exists_scale (hpos : 0 < n) (hlt : n < 2 ^ 52) : ∃ w ≤ 52,
    2 ^ 52 ≤ n * 2 ^ w ∧ 1024 * (n * 2 ^ w) < 2 ^ 53 * 1000 ∨
      n * 2 ^ w < 2 ^ 52 ∧ 2 ^ 52 * 1000 ≤ 1024 * (n * 2 ^ w) := by
  have hlow : 2 ^ n.log2 ≤ n := Nat.log2_self_le hpos.ne'
  have hhigh : n < 2 ^ (n.log2 + 1) := Nat.lt_log2_self
  have hlog : n.log2 < 52 := (Nat.pow_lt_pow_iff_right (by decide)).mp (hlow.trans_lt hlt)
  obtain ⟨w, hw⟩ := Nat.exists_eq_add_of_lt hlog
  have hfull : 2 ^ n.log2 * 2 ^ w * 2 = 2 ^ 52 := by rw [hw]; ring
  have hlow' : 2 ^ n.log2 * 2 ^ w ≤ n * 2 ^ w := Nat.mul_le_mul_right _ hlow
  have hhigh' : n * 2 ^ w < 2 ^ n.log2 * 2 ^ w * 2 := by
    calc n * 2 ^ w
      _ < 2 ^ (n.log2 + 1) * 2 ^ w := Nat.mul_lt_mul_of_pos_right hhigh (Nat.two_pow_pos w)
      _ = 2 ^ n.log2 * 2 ^ w * 2 := by ring
  -- seconds have 52 bits or 53 in the unit in which milliseconds have 52
  by_cases hpast : 2 ^ 52 * 1000 ≤ 1024 * (n * 2 ^ w)
  · exact ⟨w, by omega, .inr ⟨by omega, hpast⟩⟩
  · have hdouble : n * 2 ^ (w + 1) = 2 * (n * 2 ^ w) := by ring
    refine ⟨w + 1, by omega, .inl ⟨?_, ?_⟩⟩
    · omega
    · omega

/-- A number of milliseconds that fills its units does not slip. -/
theorem not_slips_of_le (hlow : 2 ^ 52 ≤ n * 2 ^ w)
    (hhigh : 1024 * (n * 2 ^ w) < 2 ^ 53 * 1000) : ¬ Slips n := by
  rintro ⟨k, -, hpast, hbefore, -⟩
  have hlarge : 2 ^ 42 < 2 ^ (k + w) := by
    have hmul : n * 2 ^ w < 1024 * 2 ^ k * 2 ^ w :=
      Nat.mul_lt_mul_of_pos_right hbefore (Nat.two_pow_pos w)
    rw [Nat.mul_assoc, ← Nat.pow_add] at hmul
    omega
  have hsmall : 2 ^ (k + w) < 2 ^ 43 := by
    have hmul : 1000 * 2 ^ k * 2 ^ w ≤ n * 2 ^ w := Nat.mul_le_mul_right _ hpast
    rw [Nat.mul_assoc, ← Nat.pow_add] at hmul
    omega
  have hlarge := (Nat.pow_lt_pow_iff_right (a := 2) (by decide)).mp hlarge
  have hsmall := (Nat.pow_lt_pow_iff_right (a := 2) (by decide)).mp hsmall
  omega

/-- Of the powers of two that a number of seconds has just passed there is only one. -/
theorem le_of_past {a b : ℕ} (hpast : 1000 * 2 ^ a ≤ n) (hbefore : n < 1024 * 2 ^ b) : a ≤ b := by
  by_contra hlt
  have hdouble : 2 ^ (b + 1) ≤ 2 ^ a := Nat.pow_le_pow_right (by decide) (by omega)
  rw [Nat.pow_succ] at hdouble
  omega

/-- Nothing slips between two powers of two, past the first 24 thousandths. -/
theorem not_slips_of_between {k : ℕ} (hlow : 1024 * 2 ^ k ≤ n) (hhigh : n < 1000 * 2 ^ (k + 1)) :
    ¬ Slips n := by
  rintro ⟨j, -, hpast, hbefore, -⟩
  have hle : j < k + 1 := by
    refine (Nat.pow_lt_pow_iff_right (a := 2) (by decide)).mp ?_
    exact Nat.lt_of_mul_lt_mul_left (hpast.trans_lt hhigh)
  have hlt : k < j := by
    refine (Nat.pow_lt_pow_iff_right (a := 2) (by decide)).mp ?_
    exact Nat.lt_of_mul_lt_mul_left (hlow.trans_lt hbefore)
  omega

/-- Whole seconds never slip, as nothing is lost when they are rounded. -/
theorem not_slips_of_dvd (h : 1000 ∣ n) : ¬ Slips n := by
  rintro ⟨k, -, -, -, hlost, -⟩
  rw [Nat.mod_eq_zero_of_dvd (h.mul_left _)] at hlost
  omega

/-- Less than half a second never slips. -/
theorem slips_iff_of_short {j : ℕ} (hlow : 1000 ≤ n * 2 ^ j * 2) (hhigh : n * 2 ^ j * 2 < 1024) :
    Slips n ↔ 256 < 1024 * (n * 2 ^ (43 + j)) % 1000 ∧
      1024 * (n * 2 ^ (43 + j)) % 1000 < 500 := by
  have hnone : ∀ i < 12, ¬ (256 < 1024 * ((500 + i) * 2 ^ 43) % 1000 ∧
      1024 * ((500 + i) * 2 ^ 43) % 1000 < 500) := by decide
  have hscale : n * 2 ^ (43 + j) = n * 2 ^ j * 2 ^ 43 := by ring
  obtain ⟨i, hi⟩ : ∃ i, n * 2 ^ j = 500 + i := Nat.exists_eq_add_of_le (by omega)
  rw [hscale, hi]
  refine iff_of_false ?_ (hnone i (by omega))
  rintro ⟨k, -, hpast, -⟩
  have hseconds : 1000 * 1 ≤ 1000 * 2 ^ k := Nat.mul_le_mul_left _ Nat.one_le_two_pow
  have hless : n * 1 ≤ n * 2 ^ j := Nat.mul_le_mul_left _ Nat.one_le_two_pow
  omega

/-- A number of milliseconds whose seconds have just passed a power of two slips by what is lost when
the seconds are rounded. -/
theorem slips_iff (hbefore : n * 2 ^ w < 2 ^ 52) (hpast : 2 ^ 52 * 1000 ≤ 1024 * (n * 2 ^ w)) :
    Slips n ↔ 256 < 1024 * (n * 2 ^ w) % 1000 ∧ 1024 * (n * 2 ^ w) % 1000 < 500 := by
  -- seconds that have just passed `2 ^ k` have the unit `w = 42 - k`
  rcases Nat.lt_or_ge 42 w with hw | hw
  · obtain ⟨j, rfl⟩ : ∃ j, w = 43 + j := Nat.exists_eq_add_of_le hw
    have hscale : n * 2 ^ (43 + j) = n * 2 ^ j * 2 * 2 ^ 42 := by ring
    refine slips_iff_of_short ?_ ?_ <;> omega
  · obtain ⟨k, hk⟩ := Nat.exists_eq_add_of_le hw
    have hunit : 2 ^ 52 = 1024 * (2 ^ k * 2 ^ w) := by
      rw [← Nat.pow_add, Nat.add_comm k, ← hk]
      rfl
    have hfraction : 2 ^ (52 - k) * n = 1024 * (n * 2 ^ w) := by
      have hexponent : 52 - k = w + 10 := by omega
      rw [hexponent]
      ring
    have hpast' : 1000 * 2 ^ k ≤ n := by
      refine Nat.le_of_mul_le_mul_right ?_ (Nat.two_pow_pos w)
      rw [Nat.mul_assoc]
      omega
    have hbefore' : n < 1024 * 2 ^ k := by
      refine Nat.lt_of_mul_lt_mul_right (a := 2 ^ w) ?_
      rw [Nat.mul_assoc]
      omega
    constructor
    · rintro ⟨k', -, hlow, hhigh, hlost⟩
      obtain rfl : k = k' :=
        Nat.le_antisymm (le_of_past hpast' hhigh) (le_of_past hlow hbefore')
      rwa [hfraction] at hlost
    · intro hlost
      exact ⟨k, by omega, hpast', hbefore', hfraction.symm ▸ hlost⟩

/-- The milliseconds that come back from the seconds of a number of milliseconds. -/
def comesBack (n : ℕ) : ℕ := if Slips n then n - 1 else n

/-- The whole milliseconds of what is nearest to the seconds, just behind a power of two. -/
theorem div_nearest_millis {c r : ℕ} (hpos : 0 < n) (hc : 2 ≤ c) :
    (if 256 < r ∧ r < 500 then n * c - 1 else if 500 < r ∧ r < 744 then n * c + 1 else n * c) / c =
      if 256 < r ∧ r < 500 then n - 1 else n := by
  obtain ⟨n, rfl⟩ := Nat.exists_eq_add_of_lt hpos
  have hnext : (n + 1) * c = n * c + c := Nat.succ_mul n c
  have hnext' : (n + 1 + 1) * c = n * c + c + c := by rw [Nat.succ_mul, hnext]
  rw [Nat.zero_add]
  split
  · rw [Nat.add_sub_cancel]
    exact Nat.div_eq_of_lt_le (by omega) (by omega)
  · split
    · exact Nat.div_eq_of_lt_le (by omega) (by omega)
    · exact Nat.mul_div_cancel _ (by omega)

/-- The seconds of a number of milliseconds, times a thousand, are cut off at that number or, where it
slips, at the one before. -/
theorem truncate?_millis (hpos : 0 < n) (hlt : n < 2 ^ 52) (negative : Bool) :
    ((ofQuotient negative (n * 1000) 1000000).mul (ofInt 1000)).truncate? =
      some (if negative then -(comesBack n : ℤ) else comesBack n) := by
  -- a millisecond is a whole number of units in both cases, so it comes back when it is the nearest
  obtain ⟨w, hw, ⟨hfull, hshort⟩ | ⟨hbefore, hpast⟩⟩ := exists_scale hpos hlt
  · have hunit : 2 ^ (w + 10) = 1024 * 2 ^ w := by ring
    have hback : n * 2 ^ w / 2 ^ w = comesBack n := by
      rw [Nat.mul_div_cancel _ (Nat.two_pow_pos w), comesBack,
        if_neg (not_slips_of_le hfull hshort)]
    rw [ofQuotient_seconds hw (by omega) hshort, mul_thousand hunit (by omega) (by decide)
      (by omega) (by omega) (nearest_millis _) (by omega), truncate?_eq, hback]
  · have hunit : 2 ^ (w + 10) = 512 * 2 ^ (w + 1) := by ring
    have hdouble : 2 * (n * 2 ^ w) = n * 2 ^ (w + 1) := by ring
    have hfine : 2 ≤ 2 ^ (w + 1) := by
      rw [Nat.pow_succ]
      have := Nat.two_pow_pos w
      omega
    have hnear := nearest_millis_of_lt (t := n * 2 ^ w) (by omega)
    rw [hdouble] at hnear
    have hfits := hnear.above
    rw [ofQuotient_seconds hw hpast (by omega), mul_thousand hunit (by omega) (by decide)
      (by omega) (by omega) hnear (by omega), truncate?_eq, div_nearest_millis hpos hfine, comesBack]
    simp only [slips_iff hbefore hpast]

/-! ## The milliseconds of timestamps -/

/-- The milliseconds of a timestamp at a whole millisecond are that one, or the next one toward 1970
where it slips. -/
theorem epochMillis_eq {t : Timestamp} {n : ℤ} (hinstant : t.instant = 1000 * n)
    (hlt : n.natAbs < 2 ^ 52) :
    t.epochMillis = if Slips n.natAbs then n - n.sign else n := by
  have hmicros : t.instant.natAbs = n.natAbs * 1000 := by omega
  have hunit : microsPerSecond.toNat = 1000000 := rfl
  rw [epochMillis, epochSeconds, hmicros, hunit]
  rcases Nat.eq_zero_or_pos n.natAbs with hzero | hpos
  · obtain rfl := Int.natAbs_eq_zero.mp hzero
    rw [Int.natAbs_zero, Nat.zero_mul, ofQuotient_zero, ofInt_thousand, truncate?_zero_mul,
      Int.sign_zero, Int.sub_zero, ite_self, Option.getD_some]
  · rw [truncate?_millis hpos hlt, Option.getD_some, comesBack]
    rcases lt_or_gt_of_ne (Int.natAbs_pos.mp hpos) with hneg | hnonneg
    · rw [if_pos (decide_eq_true (by omega)), Int.sign_eq_neg_one_of_neg hneg]
      split
      · omega
      · omega
    · rw [if_neg (by simp; omega), Int.sign_eq_one_of_pos hnonneg]
      split
      · omega
      · omega

/-- The clocks of timestamps show times that are less than `2 ^ 52` milliseconds from 1970. -/
theorem natAbs_instant_lt {t : Timestamp} (hwritable : t.isWritable = true)
    (hsmall : t.offset.natAbs < 86400) : t.instant.natAbs < 1000 * 2 ^ 52 := by
  simp only [isWritable, Bool.and_eq_true, decide_eq_true_eq] at hwritable
  have hdays := Date.toDays_bounds (Date.isValid_ofDays _) hwritable.1 hwritable.2
  rw [Date.toDays_ofDays, wall, secondsPerDay, microsPerSecond] at hdays
  omega

end Automation.Timestamp
