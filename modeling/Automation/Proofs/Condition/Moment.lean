import Automation.Proofs.Condition.Order
import Automation.Proofs.Time.Milliseconds

/-!
# Conditions on the time of an event

Conditions see the time of an event as a whole number of milliseconds. For an event at a whole
millisecond that number is the right one, on whatever clock the time is given, unless it slips on its
way through binary64. Then the event passes for one that was a millisecond nearer to 1970.

## Main statements

* `Condition.measures_timestamp` — the number that conditions see.
* `Condition.evaluate_timestamp` — which comparisons hold of the time of an event.
-/

namespace Automation.Condition

open Operand Timestamp

variable {event : Event} {n : ℤ}

theorem resolve_timestamp (event : Event) :
    Json.resolve "timestamp" event.root = .ok (some (.ofInt event.timestamp.epochMillis)) := rfl

theorem measures_timestamp (event : Event) :
    (Operand.path "timestamp").Measures event.root event.timestamp.epochMillis :=
  ⟨.int event.timestamp.epochMillis, resolve_timestamp event, rfl⟩

theorem measures_ofInt (root : Json) (i : ℤ) : (Operand.literal (.ofInt i)).Measures root i :=
  ⟨.int i, rfl, rfl⟩

/-- The time of an event at a whole millisecond is that millisecond and neither at most the one before
nor at least the one after, except where it slips: then it is the next one toward 1970. -/
theorem evaluate_timestamp (hwritable : event.timestamp.isWritable = true)
    (hsmall : event.timestamp.offset.natAbs < 86400) (hinstant : event.timestamp.instant = 1000 * n) :
    Json.resolve "timestamp" event.root =
        .ok (some (.ofInt (if Slips n.natAbs then n - n.sign else n))) ∧
      (Compares .equal event.root (.path "timestamp") (.literal (.ofInt n)) ↔ ¬ Slips n.natAbs) ∧
      (Compares .atMost event.root (.path "timestamp") (.literal (.ofInt (n - 1))) ↔
        Slips n.natAbs ∧ 0 < n) ∧
      (Compares .atLeast event.root (.path "timestamp") (.literal (.ofInt (n + 1))) ↔
        Slips n.natAbs ∧ n < 0) := by
  have hbound := natAbs_instant_lt hwritable hsmall
  have hmillis := epochMillis_eq hinstant (by omega)
  have htime := measures_timestamp event
  rw [resolve_timestamp, compares_atMost_iff_atLeast,
    compares_equal_iff_eq htime (measures_ofInt _ _),
    compares_atLeast_iff_le (measures_ofInt _ _) htime,
    compares_atLeast_iff_le htime (measures_ofInt _ _), Int.cast_inj, Int.cast_le, Int.cast_le,
    hmillis]
  refine ⟨rfl, ?_⟩
  -- zero does not slip, and otherwise the sign says on which side the number comes out
  by_cases hslips : Slips n.natAbs
  · have hnonzero : n ≠ 0 := by
      rintro rfl
      exact not_slips_of_dvd (Nat.dvd_zero 1000) hslips
    simp only [hslips, if_true, not_true_eq_false, iff_false, true_and]
    rcases lt_or_gt_of_ne hnonzero with hneg | hpos
    · rw [Int.sign_eq_neg_one_of_neg hneg]
      omega
    · rw [Int.sign_eq_one_of_pos hpos]
      omega
  · simp only [hslips, if_false, not_false_eq_true, false_and, iff_false, true_and]
    omega

/-- A payment in the first milliseconds of 2024, on a clock half an hour off the full hour. -/
def payment : Event :=
  ⟨.number 1, "acme", .number 42, "order.paid", [], ⟨1704067200001000, 19800⟩⟩

theorem evaluate_timestamp_payment :
    Json.resolve "timestamp" payment.root = .ok (some (.ofInt 1704067200001)) ∧
      Compares .equal payment.root (.path "timestamp") (.literal (.ofInt 1704067200001)) ∧
      ¬ Compares .atMost payment.root (.path "timestamp") (.literal (.ofInt 1704067200000)) ∧
      ¬ Compares .atLeast payment.root (.path "timestamp") (.literal (.ofInt 1704067200002)) := by
  have hkept : ¬ Slips (Int.natAbs 1704067200001) := not_slips_of_between (k := 30) (by decide) (by decide)
  obtain ⟨hresolve, hequal, hatMost, hatLeast⟩ :=
    @evaluate_timestamp payment 1704067200001 (by decide) (by decide) rfl
  exact ⟨hresolve.trans (by rw [if_neg hkept]), hequal.mpr hkept, fun h => hkept (hatMost.mp h).1,
    fun h => hkept (hatLeast.mp h).1⟩

/-- An event a second and a millisecond after the beginning of 1970. -/
def earlyEvent : Event := ⟨.number 1, "acme", .number 42, "order.paid", [], ⟨1001000, 0⟩⟩

/-- The event passes for one a second after the beginning of 1970. -/
theorem not_equal_timestamp_earlyEvent :
    earlyEvent.timestamp.instant = 1000 * 1001 ∧
      Json.resolve "timestamp" earlyEvent.root = .ok (some (.ofInt 1000)) ∧
      ¬ Compares .equal earlyEvent.root (.path "timestamp") (.literal (.ofInt 1001)) := by
  have hmillis : earlyEvent.timestamp.epochMillis = 1000 := by
    rw [epochMillis_eq (n := 1001) rfl (by decide), if_pos (by decide)]
    rfl
  rw [resolve_timestamp, compares_equal_iff_eq (measures_timestamp _) (measures_ofInt _ _), hmillis]
  exact ⟨rfl, rfl, by norm_num⟩

end Automation.Condition
