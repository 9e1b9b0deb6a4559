import Automation.Condition.Evaluation
import Automation.Event.Basic
import Automation.Proofs.Json.Equality

/-!
# Conditions that compare for equality

A condition that compares two values for equality holds when they are the same JSON value: numbers
by exact value, objects in any order of keys. Values that are told apart by booleans alone are the
exception: where a boolean faces a number inside two lists or two objects it counts as `0` or `1`,
and the condition can hold of values that are different.

## Main statements

* `Condition.evaluate_equal_same` — which values a condition takes for equal.
* `Condition.evaluate_equal_flagged` — two different lists that a condition takes for equal.
-/

namespace Automation.Condition

open Number (SameValue)

variable {root l r : Json} {left right : Operand}

theorem evaluate_equal (hleft : left.value? root = .ok (some l))
    (hright : right.value? root = .ok (some r)) :
    (Condition.compare .equal left right).evaluate root = l.looselyEq r := by
  rw [evaluate, check, hleft, hright]
  rfl

/-- A condition takes values for equal that are the same, however they reach it. Values that it
takes for equal are the same, unless a boolean faces a number somewhere inside them. -/
theorem evaluate_equal_same (hleft : left.value? root = .ok (some l))
    (hright : right.value? root = .ok (some r)) (hl : l.KeysOnce) (hr : r.KeysOnce)
    (hfinite : l.hasUnwritable = false) :
    (l.Same SameValue r → (Condition.compare .equal left right).evaluate root = true) ∧
      ((Condition.compare .equal left right).evaluate root = true →
        l.Same SameValue r ∨ l.Clash r) := by
  rw [evaluate_equal hleft hright, Json.looselyEq_iff_nestedEq hfinite]
  constructor
  · intro hsame
    refine ⟨Json.nestedEq_of_same hsame hl hr, fun hopposed => ?_⟩
    cases hopposed <;> cases hsame
  · rintro ⟨hequal, hopposed⟩
    by_cases hclash : l.Clash r
    · exact .inr hclash
    · exact .inl (Json.same_of_nestedEq hequal hl hr hfinite hopposed hclash)

/-- An order with a measure and a list of flags. -/
def measuredOrder : Event :=
  ⟨.number 1, "acme", .number 42, "order.paid",
    [("size", .obj [("width", .ofNat 3), ("exact", .bool true)]), ("flags", .arr [.bool true])],
    ⟨0, 0⟩⟩

/-- The measure in the other order of keys, and with a width that is no integer. -/
def measure : Json :=
  .obj [("exact", .bool true), ("width", .num (.float (.finite false 6 (-1))))]

theorem evaluate_equal_same_measure :
    (Condition.compare .equal (.path "payload.size") (.literal measure)).evaluate
      measuredOrder.root = true := by
  let size : Json := .obj [("width", .ofNat 3), ("exact", .bool true)]
  have hsize : size.KeysOnce := by
    refine .obj (by decide) fun member hmem => ?_
    rcases List.mem_pair.mp hmem with rfl | rfl
    · exact .num _
    · exact .bool _
  have hmeasure : measure.KeysOnce := by
    refine .obj (by decide) fun member hmem => ?_
    rcases List.mem_pair.mp hmem with rfl | rfl
    · exact .bool _
    · exact .num _
  have hwidth : SameValue (.int 3) (.float (.finite false 6 (-1))) := by
    refine ⟨3, by simp [Number.value?], ?_⟩
    norm_num [Number.value?]
  have hsame : size.Same SameValue measure := by
    refine .obj (fun key => ?_) fun key x y hx hy => ?_
    · rw [Bool.eq_iff_iff, Json.isSome_lookup_iff, Json.isSome_lookup_iff]
      simp [or_comm]
    · rcases List.mem_pair.mp (Json.mem_of_lookup hx) with h | h <;>
        obtain ⟨rfl, rfl⟩ := Prod.mk.inj h <;> obtain rfl := Option.some.inj hy
      · exact .num hwidth
      · exact .bool true
  exact (evaluate_equal_same (l := size) rfl rfl hsize hmeasure rfl).1 hsame

/-- A list of a flag is taken for a list of a number, although they are different values. -/
theorem evaluate_equal_flagged :
    let flags := Json.arr [.bool true]
    let ones := Json.arr [.ofNat 1]
    Operand.value? measuredOrder.root (.path "payload.flags") = .ok (some flags) ∧
      (Condition.compare .equal (.path "payload.flags") (.literal ones)).evaluate
        measuredOrder.root = true ∧
      ¬ flags.Same SameValue ones := by
  refine ⟨rfl, rfl, ?_⟩
  rw [Json.same_arr_iff]
  rintro (_ | ⟨hfirst, -⟩)
  cases hfirst

end Automation.Condition
