import Automation.Condition.Evaluation

/-!
# Paths that a condition reads

A condition looks at a root through its paths alone: those that it tests and those that it compares.

## Main definitions

* `Condition.Reads` — a condition has a path as its test or as an operand of a comparison.

## Main statements

* `Condition.check_congr` — a condition depends on what its paths lead to and on nothing else.
-/

namespace Automation.Condition

/-- A condition has a path as its test or as an operand of a comparison, at any depth. -/
inductive Reads (path : String) : Condition → Prop
  | truthy : Reads path (.truthy path)
  | left (comparison : Comparison) (right : Operand) :
    Reads path (.compare comparison (.path path) right)
  | right (comparison : Comparison) (left : Operand) :
    Reads path (.compare comparison left (.path path))
  | all {conditions : List Condition} {condition : Condition} (mem : condition ∈ conditions)
      (reads : Reads path condition) : Reads path (.all conditions)
  | any {conditions : List Condition} {condition : Condition} (mem : condition ∈ conditions)
      (reads : Reads path condition) : Reads path (.any conditions)

theorem reads_compare_iff {path : String} {comparison : Comparison} {left right : Operand} :
    Reads path (.compare comparison left right) ↔ left = .path path ∨ right = .path path := by
  constructor
  · intro h
    cases h with
    | left comparison right => exact .inl rfl
    | right comparison left => exact .inr rfl
  · rintro (rfl | rfl)
    · exact .left comparison right
    · exact .right comparison left

variable {root other : Json}

theorem value?_congr {operand : Operand}
    (h : ∀ path, operand = .path path → Json.resolve path root = Json.resolve path other) :
    operand.value? root = operand.value? other := by
  cases operand with
  | path path => exact h path rfl
  | literal value => rfl
  | absent => rfl

mutual
/-- A condition has the same value over roots in which all paths that it reads lead to the same. -/
theorem check_congr : ∀ condition : Condition,
    (∀ path, Reads path condition → Json.resolve path root = Json.resolve path other) →
    condition.check root = condition.check other
  | .truthy path, h => by rw [check, check, h path .truthy]
  | .compare comparison left right, h => by
    have hleft : left.value? root = left.value? other :=
      value?_congr fun path hpath => h path (hpath ▸ .left comparison right)
    have hright : right.value? root = right.value? other :=
      value?_congr fun path hpath => h path (hpath ▸ .right comparison left)
    rw [check, check, hleft, hright]
  | .all conditions, h => by
    rw [check, check]
    exact checkAll_congr conditions fun condition hmem path hreads => h path (.all hmem hreads)
  | .any conditions, h => by
    rw [check, check]
    exact checkAny_congr conditions fun condition hmem path hreads => h path (.any hmem hreads)
  | .invalid _ _, _ => by rw [check, check]

theorem checkAll_congr : ∀ conditions : List Condition,
    (∀ condition ∈ conditions, ∀ path, Reads path condition →
      Json.resolve path root = Json.resolve path other) →
    checkAll root conditions = checkAll other conditions
  | [], _ => by rw [checkAll, checkAll]
  | condition :: rest, h => by
    rw [checkAll, checkAll, check_congr condition (h condition (.head _)),
      checkAll_congr rest fun c hmem => h c (.tail _ hmem)]

theorem checkAny_congr : ∀ conditions : List Condition,
    (∀ condition ∈ conditions, ∀ path, Reads path condition →
      Json.resolve path root = Json.resolve path other) →
    checkAny root conditions = checkAny other conditions
  | [], _ => by rw [checkAny, checkAny]
  | condition :: rest, h => by
    rw [checkAny, checkAny, check_congr condition (h condition (.head _)),
      checkAny_congr rest fun c hmem => h c (.tail _ hmem)]
end

end Automation.Condition
