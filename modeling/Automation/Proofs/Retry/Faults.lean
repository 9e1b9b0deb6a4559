import Automation.Proofs.Number.Range
import Automation.Proofs.Retry.Attempts
import Automation.Settings

/-!
# Faults in delays

Whether the delays of a retried operation can be computed, for options of whole numbers and a binary64
multiplier. The first delay is turned into a binary64 value, and so is each later one when it is
multiplied; a delay that has no finite value ends the operation with a fault of its own.

## Main definitions

* `Retry.delayAt` — the delays of options, whether they can be computed or not.
* `Retry.InRange` — all delays in front of an attempt have finite values.
* `Retry.Bounded` — the bounds within which they have, for options without values below zero.

## Main statements

* `Retry.computes_iff_inRange` — delays can be computed when all of them are in range.
* `Retry.inRange_iff` — which options are in range.
* `Retry.exists_fault_of_not_computes` — other options end a failing operation in a fault.
* `Settings.bounds_of_load` — what settings that are accepted keep.
* `Retry.course_faults_iff` — when a fault takes the place of an error, and when it cannot.
-/

namespace Automation

/-! ## Computations on one delay -/

namespace Number

/-- A number as a binary64 value, infinite where it is too large. -/
def rounded : Number → Binary64
  | .int i => .ofInt i
  | .float x => x

variable {d grown : Number} {x : Binary64}

theorem toBinary64_of_finite (h : d.rounded.isFinite = true) : d.toBinary64 = .ok d.rounded := by
  cases d with
  | int i => exact if_pos h
  | float x => rfl

theorem rounded_of_toBinary64 (h : d.toBinary64 = .ok x) : d.rounded = x := by
  cases d with
  | int i =>
    simp only [toBinary64, Binary64.finiteOr] at h
    split at h
    · exact Except.ok.inj h
    · cases h
  | float y => exact Except.ok.inj h

theorem mul_float (d : Number) (x : Binary64) :
    d.mul (.float x) = d.toBinary64.bind fun y => .ok (.float (y.mul x)) := by
  cases d <;> rfl

/-- A product with a binary64 value is the product of rounded numbers, if it is any. -/
theorem mul_eq_of_ok (h : d.mul (.float x) = .ok grown) : grown = .float (d.rounded.mul x) := by
  rw [mul_float] at h
  obtain ⟨y, hy, hgrown⟩ := bind_eq_ok_iff.mp h
  rw [rounded_of_toBinary64 hy]
  exact (Except.ok.inj hgrown).symm

theorem mul_of_finite (h : d.rounded.isFinite = true) (x : Binary64) :
    d.mul (.float x) = .ok (.float (d.rounded.mul x)) := by
  rw [mul_float, toBinary64_of_finite h]
  rfl

/-- A number with a finite value has a whole part. -/
theorem wholePart_of_finite (h : d.rounded.isFinite = true) : ∃ whole, d.wholePart = .ok whole := by
  cases d with
  | int i => exact ⟨i, rfl⟩
  | float x =>
    cases x with
    | finite => exact ⟨_, rfl⟩
    | infinite | nan => cases h

/-- A number with a finite value has a thousandth. -/
theorem thousandth_of_finite (h : d.rounded.isFinite = true) :
    ∃ seconds, d.thousandth = .ok seconds := by
  cases d with
  | int i =>
    have hsmall : i.natAbs < Binary64.overflow := (Binary64.isFinite_ofInt_iff i).mp h
    have hfinite : (Binary64.ofQuotient (i < 0) i.natAbs 1000).isFinite = true := by
      rw [Binary64.isFinite_ofQuotient_iff _ (by decide)]
      exact hsmall.trans_le (Nat.le_mul_of_pos_right _ (by decide))
    exact ⟨_, if_pos hfinite⟩
  | float x => exact ⟨_, rfl⟩

/-- Only a number with a finite value has a whole part and products. -/
theorem finite_of_ok {whole : Int} (hwhole : d.wholePart = .ok whole)
    (hgrown : d.mul (.float x) = .ok grown) : d.rounded.isFinite = true := by
  cases d with
  | int i =>
    by_contra hlarge
    have hfault : (Number.int i).toBinary64 = .error .integerTooLarge := if_neg hlarge
    rw [mul_float, hfault] at hgrown
    cases hgrown
  | float y =>
    cases y with
    | finite => rfl
    | infinite | nan => cases hwhole

end Number

/-! ## All delays -/

/-- Options of whole numbers and a binary64 multiplier. -/
def RetryOptions.ofValues (limit delay cap : ℤ) (multiplier : Binary64) : RetryOptions :=
  ⟨.number (.int limit), .number (.int delay), .num (.float multiplier), .number (.int cap)⟩

namespace Retry

variable {limit delay cap : ℤ} {multiplier : Binary64}

/-- The delay behind attempt `k + 1`, whether it can be computed or not. -/
def delayAt (delay cap : ℤ) (multiplier : Binary64) : ℕ → Number
  | 0 => .float (.ofInt delay)
  | k + 1 => (Number.float ((delayAt delay cap multiplier k).rounded.mul multiplier)).least (.int cap)

/-- The first delay and all delays in front of an attempt have finite values. -/
def InRange (limit delay cap : ℤ) (multiplier : Binary64) : Prop :=
  ∀ k : ℕ, k = 0 ∨ k + 2 ≤ limit → (delayAt delay cap multiplier k).rounded.isFinite = true

theorem isLast_ofValues {number : ℕ} :
    (RetryOptions.ofValues limit delay cap multiplier).isLast number = false ↔ number < limit := by
  rw [Bool.eq_false_iff, ne_eq, RetryOptions.isLast_iff rfl, not_le]

theorem next_of_finite {k : ℕ} (h : (delayAt delay cap multiplier k).rounded.isFinite = true) :
    (Backoff.mk (k + 1) (delayAt delay cap multiplier k)).next
        (RetryOptions.ofValues limit delay cap multiplier) =
      .ok ⟨k + 2, delayAt delay cap multiplier (k + 1)⟩ := by
  rw [Backoff.next]
  show (Number.mul _ (.float multiplier) >>= _) = _
  rw [Number.mul_of_finite h]
  rfl

/-- The backoffs that are reached have the delays of their attempts. -/
theorem exists_delayAt {backoff : Backoff}
    (h : backoff.Reached (RetryOptions.ofValues limit delay cap multiplier)) :
    ∃ k, backoff = ⟨k + 1, delayAt delay cap multiplier k⟩ := by
  induction h with
  | first computed =>
    obtain ⟨first, hfirst, hbackoff⟩ := bind_eq_ok_iff.mp computed
    refine ⟨0, ?_⟩
    rw [delayAt, ← Except.ok.inj hbackoff, ← Number.rounded_of_toBinary64 hfirst]
    rfl
  | next reached left computed ih =>
    obtain ⟨k, rfl⟩ := ih
    obtain ⟨grown, hgrown, hfollowing⟩ := bind_eq_ok_iff.mp computed
    refine ⟨k + 1, ?_⟩
    rw [delayAt, ← Except.ok.inj hfollowing, Number.mul_eq_of_ok hgrown]
    rfl

/-- Delays can be computed exactly when all that are needed have finite values. -/
theorem computes_iff_inRange :
    (RetryOptions.ofValues limit delay cap multiplier).Computes ↔
      InRange limit delay cap multiplier := by
  constructor
  · intro hcomputes
    have hall : ∀ k : ℕ, k = 0 ∨ k + 2 ≤ limit →
        Backoff.Reached (RetryOptions.ofValues limit delay cap multiplier)
          ⟨k + 1, delayAt delay cap multiplier k⟩ ∧
        (delayAt delay cap multiplier k).rounded.isFinite = true := by
      intro k
      induction k with
      | zero =>
        intro _
        obtain ⟨backoff, hfirst⟩ := hcomputes.first
        obtain ⟨k, rfl⟩ := exists_delayAt (.first hfirst)
        obtain rfl : k = 0 := Nat.succ.inj (Backoff.attempt_first hfirst)
        refine ⟨.first hfirst, ?_⟩
        by_contra hlarge
        have hfault : (Number.int delay).toBinary64 = .error .integerTooLarge := if_neg hlarge
        obtain ⟨y, hy, -⟩ := bind_eq_ok_iff.mp hfirst
        cases hfault.symm.trans hy
      | succ k ih =>
        intro hk
        obtain ⟨hreached, hfinite⟩ := ih (by omega)
        have hleft : k + 1 < limit := by omega
        have hnext := Backoff.Reached.next hreached (isLast_ofValues.mpr (by exact_mod_cast hleft))
          (next_of_finite hfinite)
        obtain ⟨⟨whole, hwhole⟩, -, following, hfollowing⟩ :=
          hcomputes.onward _ hnext (isLast_ofValues.mpr (by push_cast; omega))
        obtain ⟨grown, hgrown, -⟩ := bind_eq_ok_iff.mp hfollowing
        exact ⟨hnext, Number.finite_of_ok hwhole hgrown⟩
    exact fun k hk => (hall k hk).2
  · intro hrange
    refine ⟨⟨⟨1, .float (.ofInt delay)⟩, ?_⟩, ?_⟩
    · have hfirst : (Number.int delay).toBinary64 = .ok (.ofInt delay) :=
        Number.toBinary64_of_finite (hrange 0 (.inl rfl))
      rw [Backoff.first]
      show ((Number.int delay).toBinary64 >>= _) = _
      rw [hfirst]
      rfl
    · intro backoff hreached hleft
      obtain ⟨k, rfl⟩ := exists_delayAt hreached
      have hk := isLast_ofValues.mp hleft
      have hfinite := hrange k (.inr (by push_cast at hk; omega))
      exact ⟨Number.wholePart_of_finite hfinite, Number.thousandth_of_finite hfinite, _,
        next_of_finite hfinite⟩

/-! ## Options in range -/

/-- The bounds within which all delays can be computed, for options without values below zero. The
first delay has to have a finite binary64 value. If the longest one has, too, only an infinite
multiplier that meets a zero leads further; otherwise the delays must not grow out of range. -/
def Bounded (limit delay cap : ℤ) (x : Binary64) : Prop :=
  delay < Binary64.overflow ∧
    (cap < Binary64.overflow ∧ (x.isFinite = true ∨ delay ≠ 0 ∧ (cap ≠ 0 ∨ limit ≤ 3)) ∨
      ((fun y : Binary64 => y.mul x)^[(limit - 2).toNat] (.ofInt delay)).isFinite = true)

section Range

variable {x y : Binary64}

/-- A delay that is cut off is the longest one; otherwise it stays as it is. -/
theorem least_cases (y : Binary64) (cap : ℤ) :
    (Number.float y).least (.int cap) = .int cap ∨ (Number.float y).least (.int cap) = .float y := by
  rw [Number.least]
  split
  · exact .inl rfl
  · exact .inr rfl

theorem least_infinite (cap : ℤ) : (Number.float (.infinite false)).least (.int cap) = .int cap := rfl

theorem least_nan (cap : ℤ) : (Number.float .nan).least (.int cap) = .float .nan := rfl

/-- A delay that is not below zero has a finite value once it is cut off. -/
theorem least_of_unsigned (hy : y.Unsigned) (cap : ℤ) :
    (Number.float y).least (.int cap) = .int cap ∨
      (Number.float y).least (.int cap) = .float y ∧ y.isFinite = true := by
  cases y with
  | finite => exact (least_cases _ cap).imp_right fun h => ⟨h, rfl⟩
  | infinite negative =>
    obtain rfl : negative = false := hy
    exact .inl rfl
  | nan => exact hy.elim

/-- A finite product is not cut off by a longest delay that is out of range. -/
theorem least_of_overflow (hcap : (Binary64.overflow : ℤ) ≤ cap) (h : (x.mul y).isFinite = true) :
    (Number.float (x.mul y)).least (.int cap) = .float (x.mul y) := by
  obtain ⟨q, hq, hlt⟩ := Binary64.value?_mul_lt h
  have hcap' : (Binary64.overflow : ℚ) ≤ cap := by exact_mod_cast hcap
  have hle : (Number.int cap).le (.float (x.mul y)) = false := by
    rw [Bool.eq_false_iff, ne_eq, Number.le_iff_of_value? rfl hq]
    exact (hlt.trans_le hcap').not_ge
  rw [Number.least, Number.lt, hle]
  rfl

/-- With a longest delay in range, a finite multiplier keeps all delays in range. -/
theorem finite_delayAt (hdelay : 0 ≤ delay) (hfirst : delay < Binary64.overflow) (hcap : 0 ≤ cap)
    (hlongest : cap < Binary64.overflow) (hx : x.Unsigned) (hfinite : x.isFinite = true) (k : ℕ) :
    (delayAt delay cap x k).rounded.Unsigned ∧ (delayAt delay cap x k).rounded.isFinite = true := by
  induction k with
  | zero =>
    exact ⟨Binary64.unsigned_ofInt hdelay, (Binary64.isFinite_ofInt_iff_lt hdelay).mpr hfirst⟩
  | succ k ih =>
    have hmul := Binary64.unsigned_mul ih.1 hx ih.2 hfinite
    rw [delayAt]
    obtain hcut | ⟨hkept, hproduct⟩ := least_of_unsigned hmul cap
    · rw [hcut]
      exact ⟨Binary64.unsigned_ofInt hcap, (Binary64.isFinite_ofInt_iff_lt hcap).mpr hlongest⟩
    · rw [hkept]
      exact ⟨hmul, hproduct⟩

/-- What is multiplied to a finite value has been finite all along. -/
theorem isFinite_of_iterate {k n : ℕ} (hle : k ≤ n)
    (h : ((fun y : Binary64 => y.mul x)^[n] y).isFinite = true) :
    ((fun y : Binary64 => y.mul x)^[k] y).isFinite = true := by
  induction hle with
  | refl => exact h
  | step hle ih =>
    rw [Function.iterate_succ_apply'] at h
    exact ih (Binary64.isFinite_of_mul h).1

/-- With a longest delay out of range, the delays are the products of the first one. -/
theorem delayAt_of_overflow (hcap : (Binary64.overflow : ℤ) ≤ cap) {k : ℕ}
    (h : ((fun y : Binary64 => y.mul x)^[k] (.ofInt delay)).isFinite = true) :
    delayAt delay cap x k = .float ((fun y : Binary64 => y.mul x)^[k] (.ofInt delay)) := by
  induction k with
  | zero => rfl
  | succ k ih =>
    rw [Function.iterate_succ_apply'] at h ⊢
    rw [delayAt, ih (Binary64.isFinite_of_mul h).1]
    exact least_of_overflow hcap h

/-- With a longest delay out of range, delays are in range as far as the products of the first one. -/
theorem inRange_iff_of_overflow (hcap : (Binary64.overflow : ℤ) ≤ cap) :
    InRange limit delay cap x ↔
      ((fun y : Binary64 => y.mul x)^[(limit - 2).toNat] (.ofInt delay)).isFinite = true := by
  have hnotCut : (Binary64.ofInt cap).isFinite = false := by
    have hpos : 0 ≤ cap := (Int.natCast_nonneg _).trans hcap
    rw [Bool.eq_false_iff, ne_eq, Binary64.isFinite_ofInt_iff_lt hpos]
    exact hcap.not_gt
  constructor
  · intro hrange
    have hall : ∀ k : ℕ, k = 0 ∨ k + 2 ≤ limit →
        ((fun y : Binary64 => y.mul x)^[k] (.ofInt delay)).isFinite = true := by
      intro k
      induction k with
      | zero => exact fun hk => hrange 0 hk
      | succ k ih =>
        intro hk
        have hfinite := hrange (k + 1) hk
        rw [delayAt, delayAt_of_overflow hcap (ih (by omega))] at hfinite
        rw [Function.iterate_succ_apply']
        obtain hcut | hkept := least_cases
          (((fun y : Binary64 => y.mul x)^[k] (.ofInt delay)).mul x) cap
        · rw [Number.rounded, hcut, Number.rounded, hnotCut] at hfinite
          cases hfinite
        · rwa [Number.rounded, hkept] at hfinite
    exact hall _ (by omega)
  · intro hfinite k hk
    have hk' := isFinite_of_iterate (k := k) (by omega) hfinite
    rw [delayAt_of_overflow hcap hk']
    exact hk'

/-- An infinite multiplier leads from zero to no number, and from any other delay to the longest. -/
theorem delayAt_succ_infinite {i : ℤ} (hi : 0 ≤ i) (hlt : i < Binary64.overflow) {k : ℕ}
    (h : (delayAt delay cap (.infinite false) k).rounded = .ofInt i) :
    delayAt delay cap (.infinite false) (k + 1) = if i = 0 then .float .nan else .int cap := by
  have hfinite := (Binary64.isFinite_ofInt_iff_lt hi).mpr hlt
  rw [delayAt, h, Binary64.mul_infinite (Binary64.unsigned_ofInt hi) hfinite]
  by_cases hzero : i = 0
  · rw [if_pos (Binary64.isZero_ofInt_iff.mpr hzero), if_pos hzero, least_nan]
  · rw [if_neg (mt Binary64.isZero_ofInt_iff.mp hzero), if_neg hzero, least_infinite]

/-- With a longest delay in range, an infinite multiplier leads out of range when it meets a zero. -/
theorem inRange_infinite_iff (hdelay : 0 ≤ delay) (hfirst : delay < Binary64.overflow)
    (hcap : 0 ≤ cap) (hlongest : cap < Binary64.overflow) :
    InRange limit delay cap (.infinite false) ↔ limit ≤ 2 ∨ delay ≠ 0 ∧ (cap ≠ 0 ∨ limit ≤ 3) := by
  have hone : delayAt delay cap (.infinite false) 1 = if delay = 0 then .float .nan else .int cap :=
    delayAt_succ_infinite hdelay hfirst rfl
  constructor
  · intro hrange
    by_cases hshort : limit ≤ 2
    · exact .inl hshort
    right
    have hfinite := hrange 1 (by omega)
    have hnonzero : delay ≠ 0 := by
      rintro rfl
      rw [hone] at hfinite
      cases hfinite
    refine ⟨hnonzero, ?_⟩
    by_contra! hno
    obtain ⟨rfl, hlimit⟩ := hno
    rw [if_neg hnonzero] at hone
    have htwo := delayAt_succ_infinite le_rfl hlongest (congrArg Number.rounded hone)
    have hfinite' := hrange 2 (by omega)
    rw [htwo] at hfinite'
    cases hfinite'
  · intro h k hk
    have hzero : (delayAt delay cap (.infinite false) 0).rounded.isFinite = true :=
      (Binary64.isFinite_ofInt_iff_lt hdelay).mpr hfirst
    obtain hshort | ⟨hnonzero, hrest⟩ := h
    · obtain rfl : k = 0 := by omega
      exact hzero
    · rw [if_neg hnonzero] at hone
      cases k with
      | zero => exact hzero
      | succ k =>
        have hcut : delayAt delay cap (.infinite false) (k + 1) = .int cap := by
          induction k with
          | zero => exact hone
          | succ k ih =>
            have hcap' : cap ≠ 0 := by omega
            rw [delayAt_succ_infinite hcap hlongest (congrArg Number.rounded (ih (by omega))),
              if_neg hcap']
        rw [hcut]
        exact (Binary64.isFinite_ofInt_iff_lt hcap).mpr hlongest

/-- Which options are in range, when nothing in them is below zero. -/
theorem inRange_iff (hdelay : 0 ≤ delay) (hcap : 0 ≤ cap) (hx : x.Unsigned) :
    InRange limit delay cap x ↔ Bounded limit delay cap x := by
  rw [Bounded]
  by_cases hfirst : delay < Binary64.overflow
  · rw [and_iff_right hfirst]
    have hzero := (Binary64.isFinite_ofInt_iff_lt hdelay).mpr hfirst
    by_cases hlongest : cap < Binary64.overflow
    · rw [and_iff_right hlongest]
      by_cases hfinite : x.isFinite = true
      · exact iff_of_true (fun k _ => (finite_delayAt hdelay hfirst hcap hlongest hx hfinite k).2)
          (.inl (.inl hfinite))
      · obtain rfl : x = .infinite false := by
          cases x with
          | finite => exact absurd rfl hfinite
          | infinite negative => exact congrArg Binary64.infinite hx
          | nan => exact hx.elim
        have hproducts : ((fun y : Binary64 => y.mul (.infinite false))^[(limit - 2).toNat]
            (.ofInt delay)).isFinite = true ↔ limit ≤ 2 := by
          have hshort : (limit - 2).toNat = 0 ↔ limit ≤ 2 := by omega
          rw [← hshort]
          cases (limit - 2).toNat with
          | zero => exact iff_of_true hzero rfl
          | succ n =>
            rw [Function.iterate_succ_apply']
            exact iff_of_false (fun h => hfinite (Binary64.isFinite_of_mul h).2) n.succ_ne_zero
        rw [inRange_infinite_iff hdelay hfirst hcap hlongest, hproducts, or_iff_right hfinite]
        exact or_comm
    · rw [inRange_iff_of_overflow (not_lt.mp hlongest)]
      refine ⟨.inr, ?_⟩
      intro h
      cases h with
      | inl h => exact absurd h.1 hlongest
      | inr h => exact h
  · refine iff_of_false ?_ fun h => hfirst h.1
    intro hrange
    exact hfirst ((Binary64.isFinite_ofInt_iff_lt hdelay).mp (hrange 0 (.inl rfl)))

end Range

/-! ## Runs that end in a fault -/

/-- A script of attempts that all fail with the same error. -/
def Script.failing {ε κ α : Type} (error : ε) : Script ε κ α :=
  ⟨fun _ => .failed error, fun _ => none⟩

section Runs

variable {ε κ α : Type} {options : RetryOptions} (message : ε → String) (error : ε)

/-- Behind a failed attempt that is not the last one, the operation ends in a fault, or the delay in
front of the next attempt is computed and the operation goes on. -/
theorem courseFrom_failing {backoff : Backoff} (hleft : options.isLast backoff.attempt = false) :
    (∀ fuel, ∃ fault, (courseFrom options message (.failing error : Script ε κ α) (fuel + 1)
      backoff).ending = .faulted fault) ∨
    (∃ whole, backoff.delay.wholePart = .ok whole) ∧
    (∃ seconds, backoff.delay.thousandth = .ok seconds) ∧
    ∃ following waits entries, backoff.next options = .ok following ∧
      ∀ fuel, courseFrom options message (.failing error : Script ε κ α) (fuel + 1) backoff =
        (courseFrom options message (.failing error) fuel following).after waits entries := by
  rw [RetryOptions.isLast] at hleft
  simp only [courseFrom, Script.failing, Backoff.decide, hleft, Bool.false_eq_true, if_false]
  cases backoff.delay.wholePart with
  | error fault => exact .inl fun _ => ⟨fault, rfl⟩
  | ok whole =>
    cases backoff.delay.thousandth with
    | error fault => exact .inl fun _ => ⟨fault, rfl⟩
    | ok seconds =>
      cases backoff.next options with
      | error fault => exact .inl fun _ => ⟨fault, rfl⟩
      | ok following =>
        exact .inr ⟨⟨whole, rfl⟩, ⟨seconds, rfl⟩, following, _, _, rfl, fun _ => rfl⟩

/-- When an operation that keeps failing does not end in a fault, every backoff that can be reached
is one of its own. -/
theorem exists_of_reached {limit : ℕ} (hlimit : options.maxAttempts.value = .int limit)
    (hpos : 0 < limit)
    (hsettled : ∀ fault,
      (course options message (.failing error : Script ε κ α)).ending ≠ .faulted fault)
    {backoff : Backoff} (hreached : backoff.Reached options) :
    ∃ fuel waits entries, limit = fuel + backoff.attempt ∧
      course options message (.failing error : Script ε κ α) =
        (courseFrom options message (.failing error) (fuel + 1) backoff).after waits entries := by
  induction hreached with
  | first computed =>
    obtain ⟨fuel, rfl⟩ : ∃ fuel, limit = fuel + 1 := ⟨limit - 1, by omega⟩
    refine ⟨fuel, [], [], by rw [Backoff.attempt_first computed], ?_⟩
    rw [course, computed, attemptLimit_eq hlimit]
    rfl
  | @next backoff following reached left computed ih =>
    obtain ⟨fuel, waits, entries, hfuel, hcourse⟩ := ih
    have hless : backoff.attempt < limit := by
      rw [Bool.eq_false_iff, ne_eq, RetryOptions.isLast_iff hlimit] at left
      omega
    obtain ⟨fuel, rfl⟩ : ∃ fuel', fuel = fuel' + 1 := ⟨fuel - 1, by omega⟩
    obtain hfaulted | ⟨-, -, following', more, moreEntries, hnext, hround⟩ :=
      courseFrom_failing message error left
    · obtain ⟨fault, hfault⟩ := hfaulted (fuel + 1)
      exact absurd (hcourse ▸ hfault) (hsettled fault)
    · obtain rfl : following' = following := Except.ok.inj (hnext.symm.trans computed)
      refine ⟨fuel, waits ++ more, entries ++ moreEntries, ?_, ?_⟩
      · rw [Backoff.attempt_next computed]
        omega
      · rw [hcourse, hround]
        simp only [Course.after, List.append_assoc]

/-- Options whose delays cannot all be computed make an operation that keeps failing end in a fault,
and not in an error of its own. -/
theorem exists_fault_of_not_computes {limit : ℕ} (hlimit : options.maxAttempts.value = .int limit)
    (hpos : 0 < limit) (hnot : ¬ options.Computes) :
    ∃ fault, (course options message (.failing error : Script ε κ α)).ending = .faulted fault := by
  by_contra! hsettled
  refine hnot ⟨?_, ?_⟩
  · cases hfirst : Backoff.first options with
    | error fault =>
      refine absurd ?_ (hsettled fault)
      rw [course, hfirst]
    | ok backoff => exact ⟨backoff, rfl⟩
  · intro backoff hreached hleft
    obtain ⟨fuel, waits, entries, -, hcourse⟩ :=
      exists_of_reached message error hlimit hpos hsettled hreached
    obtain hfaulted | ⟨hwhole, hseconds, following, -, -, hnext, -⟩ :=
      courseFrom_failing message error hleft
    · obtain ⟨fault, hfault⟩ := hfaulted fuel
      exact absurd (hcourse ▸ hfault) (hsettled fault)
    · exact ⟨hwhole, hseconds, following, hnext⟩

end Runs

end Retry

/-! ## Options and settings that are accepted -/

theorem Number.lt_int_iff {a b : ℤ} : (Number.int a).lt (.int b) = true ↔ a < b := by
  have hle : (Number.int a).le (.int b) = true ↔ a ≤ b := by
    rw [Number.le_iff_of_value? rfl rfl, Int.cast_le]
  have heqv : (Number.int a).eqv (.int b) = true ↔ a = b := by
    rw [Number.eqv_iff_sameValue rfl]
    simp [Number.SameValue, Number.value?, eq_comm]
  rw [Number.lt, Bool.and_eq_true, hle, Bool.not_eq_true', Bool.eq_false_iff, ne_eq, heqv]
  omega

namespace RetryOptions

theorem quantityFrom_int {bound i : ℤ} {fault : Fault} :
    quantityFrom bound fault (.ofInt i) =
      if bound ≤ i then .ok (.number (.int i)) else .error fault := by
  rw [quantityFrom]
  show (if (Number.int i).lt (.int bound) then _ else _) = _
  by_cases h : bound ≤ i
  · rw [if_pos h, if_neg (by rw [Number.lt_int_iff]; omega)]
  · rw [if_neg h, if_pos (by rw [Number.lt_int_iff]; omega)]

/-- Options of whole numbers are accepted when there is an attempt and no delay is below zero. -/
theorem check_ofInt_iff {limit delay cap : ℤ} {x : Binary64} {options : RetryOptions} :
    check (.ofInt limit) (.ofInt delay) (.num (.float x)) (.ofInt cap) = .ok options ↔
      1 ≤ limit ∧ 0 ≤ delay ∧ 0 ≤ cap ∧ options = ofValues limit delay cap x := by
  rw [check, quantityFrom_int, quantityFrom_int, quantityFrom_int]
  by_cases hlimit : 1 ≤ limit
  · by_cases hdelay : 0 ≤ delay
    · by_cases hcap : 0 ≤ cap
      · simp only [hlimit, hdelay, hcap, if_true, true_and]
        exact ⟨fun h => (Except.ok.inj h).symm, fun h => congrArg Except.ok h.symm⟩
      · simp only [hlimit, hdelay, hcap, if_true, if_false, true_and, false_and, iff_false]
        exact nofun
    · simp only [hlimit, hdelay, if_true, if_false, true_and, false_and, iff_false]
      exact nofun
  · simp only [hlimit, if_false, false_and, iff_false]
    exact nofun

/-- Options that are accepted allow an attempt. -/
theorem pos_of_check {maxAttempts delayMs multiplier maxDelayMs : Json} {options : RetryOptions}
    {limit : ℕ} (hcheck : check maxAttempts delayMs multiplier maxDelayMs = .ok options)
    (hlimit : options.maxAttempts.value = .int limit) : 0 < limit := by
  obtain ⟨attempts, hattempts, hcheck⟩ := bind_eq_ok_iff.mp hcheck
  obtain ⟨delay, -, hcheck⟩ := bind_eq_ok_iff.mp hcheck
  obtain ⟨cap, -, hoptions⟩ := bind_eq_ok_iff.mp hcheck
  obtain rfl := Except.ok.inj hoptions
  obtain ⟨q, -, hbound⟩ := bind_eq_ok_iff.mp hattempts
  split at hbound
  · cases hbound
  next hleast =>
    obtain rfl := Except.ok.inj hbound
    by_contra hzero
    refine hleast ?_
    rw [hlimit, Number.lt_int_iff]
    omega

end RetryOptions

open Validation in
/-- Settings that are accepted have an attempt, no delay below zero and a multiplier that is not below
one. -/
theorem Settings.bounds_of_ofMembers {values : Json.Members} {settings : Settings}
    (h : ofMembers values = .ok settings) :
    1 ≤ settings.retryMaxAttempts ∧ 0 ≤ settings.retryDelayMs ∧ 0 ≤ settings.retryMaxDelayMs ∧
      (Number.int 1).le (.float settings.retryMultiplier) = true := by
  simp only [ofMembers, Validated.ap_eq_ok_iff, Validated.accept] at h
  -- the settings behind those of the retries, their own, and the ones in front
  obtain ⟨_, _, ⟨_, _, ⟨_, _, ⟨_, _, ⟨_, _, ⟨_, _, ⟨_, _, h, -, h₁⟩, -, h₂⟩, -, h₃⟩, -, h₄⟩, -, h₅⟩,
    -, h₆⟩, -, h₇⟩ := h
  subst h₁ h₂ h₃ h₄ h₅ h₆ h₇
  obtain ⟨_, cap, ⟨_, multiplier, ⟨_, delay, ⟨_, limit, h, hlimit, rfl⟩, hdelay, rfl⟩, hmultiplier,
    rfl⟩, hcap, rfl⟩ := h
  obtain ⟨_, _, ⟨_, _, ⟨_, _, ⟨_, _, ⟨_, _, ⟨_, _, ⟨rfl⟩, -, rfl⟩, -, rfl⟩, -, rfl⟩, -, rfl⟩, -, rfl⟩,
    -, rfl⟩ := h
  refine ⟨?_, ?_, ?_, ?_⟩
  · exact of_optional (P := (1 ≤ ·)) (by decide) (fun _ _ => le_of_integerAtLeast) hlimit
  · exact of_optional (P := (0 ≤ ·)) (by decide) (fun _ _ => le_of_integerAtLeast) hdelay
  · exact of_optional (P := (0 ≤ ·)) (by decide) (fun _ _ => le_of_integerAtLeast) hcap
  · exact of_optional (P := fun x => (Number.int 1).le (.float x) = true) (by decide)
      (fun _ _ => le_of_floatAtLeast) hmultiplier

theorem Settings.bounds_of_load {environment : Environment} {arguments : Json.Members}
    {settings : Settings} (h : load environment arguments = .ok settings) :
    1 ≤ settings.retryMaxAttempts ∧ 0 ≤ settings.retryDelayMs ∧ 0 ≤ settings.retryMaxDelayMs ∧
      (Number.int 1).le (.float settings.retryMultiplier) = true := by
  obtain ⟨_, _, hmap, -, rfl⟩ := Validated.ap_eq_ok_iff.mp h
  obtain ⟨_, hmembers, rfl⟩ := map_eq_ok_iff.mp hmap
  exact Settings.bounds_of_ofMembers hmembers

/-! ## Faults in place of errors -/

namespace Retry

/-- Only delays that cannot be computed end an operation in place of its errors, and they do. Which of
the options that are accepted have such delays is seen from the delays in front of an attempt; for
options without values below zero, and so for all settings that are accepted, it is a matter of
bounds. -/
theorem course_faults_iff {ε κ α : Type} (message : ε → String) (error : ε) :
    (∀ {maxAttempts delayMs multiplier maxDelayMs : Json} {options : RetryOptions} {limit : ℕ},
      RetryOptions.check maxAttempts delayMs multiplier maxDelayMs = .ok options →
      options.maxAttempts.value = .int limit →
      (options.Computes → ∀ script : Script ε κ α,
        (course options message script).Orderly limit script) ∧
      (¬ options.Computes → ∃ fault,
        (course options message (.failing error : Script ε κ α)).ending = .faulted fault)) ∧
    (∀ {limit delay cap : ℤ} {x : Binary64} {options : RetryOptions},
      RetryOptions.check (.ofInt limit) (.ofInt delay) (.num (.float x)) (.ofInt cap) = .ok options →
      (options.Computes ↔ InRange limit delay cap x) ∧
      (x.Unsigned → (options.Computes ↔ Bounded limit delay cap x))) ∧
    (∀ {environment : Environment} {arguments : Json.Members} {settings : Settings},
      Settings.load environment arguments = .ok settings →
      RetryOptions.check (.ofInt settings.retryMaxAttempts) (.ofInt settings.retryDelayMs)
        (.num (.float settings.retryMultiplier)) (.ofInt settings.retryMaxDelayMs) =
          .ok settings.retryOptions ∧
      (settings.retryOptions.Computes ↔ Bounded settings.retryMaxAttempts settings.retryDelayMs
        settings.retryMaxDelayMs settings.retryMultiplier)) := by
  refine ⟨?_, ?_, ?_⟩
  · intro _ _ _ _ options limit hcheck hlimit
    have hpos := RetryOptions.pos_of_check hcheck hlimit
    exact ⟨fun hcomputes script => orderly_of_computes message hcomputes hlimit hpos script,
      exists_fault_of_not_computes message error hlimit hpos⟩
  · intro limit delay cap x options hcheck
    obtain ⟨-, hdelay, hcap, rfl⟩ := RetryOptions.check_ofInt_iff.mp hcheck
    refine ⟨computes_iff_inRange, ?_⟩
    intro hx
    exact computes_iff_inRange.trans (inRange_iff hdelay hcap hx)
  · intro environment arguments settings hload
    obtain ⟨hattempts, hdelay, hcap, hone⟩ := Settings.bounds_of_load hload
    have hzero : (Number.int 0).le (.int 1) = true := by decide
    have hx : settings.retryMultiplier.Unsigned :=
      Binary64.unsigned_iff.mpr (Number.le_trans hzero hone)
    exact ⟨RetryOptions.check_ofInt_iff.mpr ⟨hattempts, hdelay, hcap, rfl⟩,
      computes_iff_inRange.trans (inRange_iff hdelay hcap hx)⟩

/-- Options whose multiplier is infinite, without a first delay. -/
def zeroDelay : RetryOptions := .ofValues 3 0 10000 (.infinite false)

theorem course_faults_iff_zeroDelay :
    (∃ settings, Settings.load [] [] = .ok settings ∧ settings.retryOptions.Computes) ∧
      RetryOptions.check (.ofInt 3) (.ofInt 0) (.num (.float (.infinite false))) (.ofInt 10000) =
        .ok zeroDelay ∧
      ∃ fault, (course zeroDelay id (.failing "down" : Script String Empty Nat)).ending =
        .faulted fault := by
  obtain ⟨hruns, hoptions, hsettings⟩ := course_faults_iff (κ := Empty) (α := Nat) id "down"
  have hcheck : RetryOptions.check (.ofInt 3) (.ofInt 0) (.num (.float (.infinite false)))
      (.ofInt 10000) = .ok zeroDelay :=
    RetryOptions.check_ofInt_iff.mpr ⟨by decide, by decide, by decide, rfl⟩
  have hnot : ¬ Bounded 3 0 10000 (.infinite false) := by
    intro hbounded
    obtain ⟨-, ⟨-, hfinite | ⟨hnonzero, -⟩⟩ | hproduct⟩ := hbounded
    · cases hfinite
    · exact hnonzero rfl
    · exact absurd hproduct (by decide)
  refine ⟨?_, hcheck, ?_⟩
  · have hbounded : Bounded 3 1000 10000 (.ofInt 2) :=
      ⟨by decide +kernel, .inl ⟨by decide +kernel, .inl rfl⟩⟩
    exact ⟨_, rfl, (@hsettings [] [] _ rfl).2.mpr hbounded⟩
  · exact (hruns hcheck rfl).2 (mt ((hoptions hcheck).2 rfl).mp hnot)

/-- Options with a first delay that has no binary64 value. -/
def hugeDelay : RetryOptions := .ofValues 3 (10 ^ 309) 10000 (.ofInt 2)

/-- A script whose first attempt gives a value. -/
def sent : Script String Empty String := .ofOutcomes fun _ => .ok "sent"

/-- The options are accepted, and the operation ends in a fault before its first attempt. -/
theorem course_faults_hugeDelay :
    RetryOptions.check (.ofInt 3) (.ofInt (10 ^ 309)) (.num (.float (.ofInt 2))) (.ofInt 10000) =
        .ok hugeDelay ∧
      sent.attempt 1 = .returned "sent" ∧
      (course hugeDelay id sent).ending = .faulted .integerTooLarge ∧
      (course hugeDelay id sent).attempts = 0 := by
  have hlarge : (Binary64.ofInt (10 ^ 309)).isFinite = false := by decide +kernel
  have hfirst : Backoff.first hugeDelay = .error .integerTooLarge := by
    rw [Backoff.first]
    show ((Binary64.ofInt (10 ^ 309)).finiteOr .integerTooLarge >>= _) = _
    rw [Binary64.finiteOr, hlarge]
    rfl
  refine ⟨RetryOptions.check_ofInt_iff.mpr ⟨by decide, by positivity, by decide, rfl⟩, rfl, ?_, ?_⟩
  · rw [course, hfirst]
  · rw [course, hfirst]
    rfl

end Retry

end Automation
