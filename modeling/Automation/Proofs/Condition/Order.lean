import Automation.Proofs.Condition.Document
import Automation.Proofs.Condition.Equality
import Mathlib.Tactic.NormNum

/-!
# Conditions that compare numbers

The comparisons of the condition language describe one order. Two operands that are numbers are
compared by their exact values, whether they are integers or binary64 values and however large they
are, and no two of the comparisons contradict each other. An operand that is no number is neither at
least nor at most anything.

## Main definitions

* `Operand.Measures` — an operand is a number of an exact value.
* `Operand.NoNumber` — an operand is no number.
* `Condition.Compares` — a comparison holds of two operands.

## Main statements

* `Condition.compares_atLeast_iff` — only numbers are at least something.
* `Condition.order_coheres` — the comparisons describe one order.
-/

namespace Automation

namespace Operand

/-- An operand is an integer or a finite binary64 value, with an exact value. -/
def Measures (root : Json) (operand : Operand) (q : ℚ) : Prop :=
  ∃ n : Number, operand.value? root = .ok (some (.num n)) ∧ n.value? = some q

/-- An operand is no number: it is absent, or a value of another kind, booleans among them. -/
def NoNumber (root : Json) (operand : Operand) : Prop :=
  ∀ n : Number, operand.value? root ≠ .ok (some (.num n))

end Operand

namespace Condition

open Operand

/-- A comparison holds of two operands. -/
def Compares (comparison : Comparison) (root : Json) (left right : Operand) : Prop :=
  (Condition.compare comparison left right).evaluate root = true

variable {root : Json} {a b c : Operand} {p q : ℚ}

theorem compares_iff {comparison : Comparison} : Compares comparison root a b ↔
    ∃ l r, a.value? root = .ok l ∧ b.value? root = .ok r ∧ comparison.holds l r = true := by
  rw [Compares, evaluate, check]
  cases a.value? root with
  | error fault => simp
  | ok l =>
    cases b.value? root with
    | error fault => simp
    | ok r => simp

/-- An operand is at least another one only if both are numbers. -/
theorem compares_atLeast_iff : Compares .atLeast root a b ↔
    ∃ m n : Number, a.value? root = .ok (some (.num m)) ∧ b.value? root = .ok (some (.num n)) ∧
      n.le m = true := by
  rw [compares_iff]
  constructor
  · rintro ⟨l, r, ha, hb, h⟩
    simp only [Comparison.holds] at h
    split at h
    next m n hnumbers =>
      obtain ⟨rfl, rfl⟩ := ConditionDocument.numbers?_eq_some_iff.mp hnumbers
      exact ⟨m, n, ha, hb, h⟩
    · cases h
  · rintro ⟨m, n, ha, hb, h⟩
    exact ⟨_, _, ha, hb, h⟩

/-- An operand is at most another one when that is at least the first. -/
theorem compares_atMost_iff_atLeast :
    Compares .atMost root a b ↔ Compares .atLeast root b a := by
  rw [compares_iff, compares_iff]
  -- the two comparisons look at the same numbers, the other way round
  have hholds : ∀ l r, Comparison.atMost.holds l r = Comparison.atLeast.holds r l := by
    rintro (_ | (_ | _ | _ | _ | _ | _)) (_ | (_ | _ | _ | _ | _ | _)) <;> rfl
  constructor
  · rintro ⟨l, r, ha, hb, h⟩
    exact ⟨r, l, hb, ha, hholds l r ▸ h⟩
  · rintro ⟨r, l, hb, ha, h⟩
    exact ⟨l, r, ha, hb, (hholds l r).trans h⟩

theorem compares_atLeast_trans (hab : Compares .atLeast root a b)
    (hbc : Compares .atLeast root b c) : Compares .atLeast root a c := by
  obtain ⟨m, n, ha, hb, hnm⟩ := compares_atLeast_iff.mp hab
  obtain ⟨n', k, hb', hc, hkn⟩ := compares_atLeast_iff.mp hbc
  obtain rfl : n = n' := by simpa [hb] using hb'
  exact compares_atLeast_iff.mpr ⟨m, k, ha, hc, Number.le_trans hkn hnm⟩

theorem not_compares_of_noNumber (h : a.NoNumber root ∨ b.NoNumber root) :
    ¬ Compares .atLeast root a b := by
  intro hholds
  obtain ⟨m, n, ha, hb, -⟩ := compares_atLeast_iff.mp hholds
  rcases h with hnone | hnone
  · exact hnone m ha
  · exact hnone n hb

/-- Numbers are compared by their exact values. -/
theorem compares_atLeast_iff_le (ha : a.Measures root p) (hb : b.Measures root q) :
    Compares .atLeast root a b ↔ q ≤ p := by
  obtain ⟨m, ha, hm⟩ := ha
  obtain ⟨n, hb, hn⟩ := hb
  rw [← Number.le_iff_of_value? hn hm, compares_atLeast_iff]
  simp [ha, hb]

theorem compares_equal_iff_eq (ha : a.Measures root p) (hb : b.Measures root q) :
    Compares .equal root a b ↔ p = q := by
  obtain ⟨m, ha, hm⟩ := ha
  obtain ⟨n, hb, hn⟩ := hb
  have heqv : (Json.num m).looselyEq (.num n) = m.eqv n := rfl
  rw [Compares, evaluate_equal ha hb, heqv, Number.eqv_iff_sameValue hm, Number.SameValue]
  simp [hm, hn, eq_comm]

/-- The comparisons describe one order. "At least" and "at most" are each other's converse. Of two
numbers one is at least the other, as their exact values are, and both are at least the other exactly
when they are equal. "At least" is transitive. What is no number is not ordered. -/
theorem order_coheres (event : Event) (a b c : Operand) :
    (Compares .atLeast event.root a b ↔ Compares .atMost event.root b a) ∧
      (∀ p q : ℚ, a.Measures event.root p → b.Measures event.root q →
        (Compares .atLeast event.root a b ↔ q ≤ p) ∧
          (Compares .atLeast event.root a b ∨ Compares .atMost event.root a b) ∧
          (Compares .atLeast event.root a b ∧ Compares .atMost event.root a b ↔
            Compares .equal event.root a b)) ∧
      (Compares .atLeast event.root a b → Compares .atLeast event.root b c →
        Compares .atLeast event.root a c) ∧
      (a.NoNumber event.root ∨ b.NoNumber event.root →
        ¬ Compares .atLeast event.root a b ∧ ¬ Compares .atMost event.root a b) := by
  refine ⟨compares_atMost_iff_atLeast.symm, fun p q ha hb => ?_, compares_atLeast_trans,
    fun hnone => ?_⟩
  · rw [compares_atMost_iff_atLeast, compares_atLeast_iff_le ha hb, compares_atLeast_iff_le hb ha,
      compares_equal_iff_eq ha hb]
    exact ⟨Iff.rfl, le_total q p, ⟨fun h => le_antisymm h.2 h.1, fun h => ⟨h.ge, h.le⟩⟩⟩
  · rw [compares_atMost_iff_atLeast]
    exact ⟨not_compares_of_noNumber hnone, not_compares_of_noNumber hnone.symm⟩

/-- An event with two amounts that lie so close together that binary64 has no room between them, and
with a flag. -/
def transfer : Event :=
  ⟨.number 1, "acme", .number 42, "transfer.made",
    [("sent", .ofInt 9007199254740993), ("received", .num (.float (.finite false (2 ^ 52) 1))),
      ("final", .bool true)], ⟨0, 0⟩⟩

theorem order_coheres_transfer :
    let sent := Operand.path "payload.sent"
    let received := Operand.path "payload.received"
    let round := Operand.literal (.ofInt 9007199254740992)
    let final := Operand.path "payload.final"
    Compares .atLeast transfer.root sent received ∧ ¬ Compares .equal transfer.root sent received ∧
      Compares .equal transfer.root received round ∧ Compares .atLeast transfer.root sent round ∧
      ¬ Compares .atMost transfer.root sent final := by
  intro sent received round final
  have hsent : sent.Measures transfer.root 9007199254740993 :=
    ⟨.int 9007199254740993, rfl, by simp [Number.value?]⟩
  have hreceived : received.Measures transfer.root 9007199254740992 :=
    ⟨.float (.finite false (2 ^ 52) 1), rfl, by norm_num [Number.value?]⟩
  have hround : round.Measures transfer.root 9007199254740992 :=
    ⟨.int 9007199254740992, rfl, by simp [Number.value?]⟩
  have hfinal : final.NoNumber transfer.root := by
    intro n h
    cases h
  obtain ⟨-, hnumbers, htrans, -⟩ := order_coheres transfer sent received round
  obtain ⟨-, hrounded, -, -⟩ := order_coheres transfer received round sent
  have hatLeast := (hnumbers _ _ hsent hreceived).1.mpr (by norm_num)
  have hequal : Compares .equal transfer.root received round :=
    (compares_equal_iff_eq hreceived hround).mpr rfl
  refine ⟨hatLeast, ?_, hequal, htrans hatLeast ((hrounded _ _ hreceived hround).2.2.mpr hequal).1,
    ((order_coheres transfer sent final sent).2.2.2 (.inr hfinal)).2⟩
  rw [compares_equal_iff_eq hsent hreceived]
  norm_num

end Condition

end Automation
