import Automation.Condition.Basic
import Automation.Json.Path

/-!
# Evaluating conditions

A condition is evaluated over a root value, the event. A path that leads nowhere is absent: absent
values equal each other and nothing else, and no order relates them. Booleans are no numbers here.
Groups are evaluated from the left and stop as soon as their value is known; a list position of
too many digits that is reached makes the whole evaluation false.

## Main definitions

* `Comparison.holds` — a comparison of two values, either of which may be absent.
* `Condition.check` — the value of a condition, or the fault met on the way.
* `Condition.evaluate` — whether a condition holds.
-/

namespace Automation

open Json (PositionTooLong)

/-- The value of an operand, or nothing when its path leads nowhere. -/
def Operand.value? (root : Json) : Operand → Except PositionTooLong (Option Json)
  | .path p => Json.resolve p root
  | .literal value => .ok (some value)
  | .absent => .ok none

/-- Equality of two values, either of which may be absent. -/
def equalValues : Option Json → Option Json → Bool
  | some left, some right => left.looselyEq right
  | none, none => true
  | some _, none => false
  | none, some _ => false

/-- The numbers that two values are, when both are numbers. -/
def numbers? (left right : Option Json) : Option (Number × Number) := do
  let left ← left
  let right ← right
  let m ← left.number?
  let n ← right.number?
  some (m, n)

/-- Whether a comparison holds of two values. -/
def Comparison.holds (comparison : Comparison) (left right : Option Json) : Bool :=
  match comparison with
  | .equal => equalValues left right
  | .atLeast => match numbers? left right with
    | some (m, n) => n.le m
    | none => false
  | .atMost => match numbers? left right with
    | some (m, n) => m.le n
    | none => false

namespace Condition

mutual
/-- The value of a condition over a root, or the fault met on the way. -/
def check (root : Json) : Condition → Except PositionTooLong Bool
  | .truthy path =>
    match Json.resolve path root with
    | .error fault => .error fault
    | .ok none => .ok false
    | .ok (some value) => .ok value.isTruthy
  | .compare comparison left right =>
    match left.value? root with
    | .error fault => .error fault
    | .ok l =>
      match right.value? root with
      | .error fault => .error fault
      | .ok r => .ok (comparison.holds l r)
  | .all conditions => checkAll root conditions
  | .any conditions => checkAny root conditions
  | .invalid _ _ => .ok false

/-- Whether all conditions hold, from the left. -/
def checkAll (root : Json) : List Condition → Except PositionTooLong Bool
  | [] => .ok true
  | condition :: rest =>
    match check root condition with
    | .ok true => checkAll root rest
    | other => other

/-- Whether any condition holds, from the left. -/
def checkAny (root : Json) : List Condition → Except PositionTooLong Bool
  | [] => .ok false
  | condition :: rest =>
    match check root condition with
    | .ok false => checkAny root rest
    | other => other
end

/-- Whether a condition holds over a root. -/
def evaluate (condition : Condition) (root : Json) : Bool :=
  match condition.check root with
  | .ok value => value
  | .error _ => false

end Condition

end Automation
