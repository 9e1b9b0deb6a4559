import Automation.Json.Basic

/-!
# Policy conditions

A condition is a small tree of tests on an event: a path that must hold a true value, comparisons
of two operands, and groups of which all or any must hold. A document that could not be read
leaves an `invalid` condition behind, which never holds and remembers its document.

## Main definitions

* `Operand`, `Comparison`, `Condition` — the tree.
* `Condition.toDocument` — the document that spells a condition.
-/

namespace Automation

/-- What a comparison compares: the value at a path, a literal, or the absent value itself. -/
inductive Operand where
  | path (path : String)
  | literal (value : Json)
  | absent
  deriving DecidableEq, Repr, Inhabited

/-- The comparisons of the condition language. -/
inductive Comparison where
  | equal
  | atLeast
  | atMost
  deriving DecidableEq, Repr, Inhabited

/-- A condition on an event. -/
inductive Condition where
  | truthy (path : String)
  | compare (comparison : Comparison) (left right : Operand)
  | all (conditions : List Condition)
  | any (conditions : List Condition)
  | invalid (reason : String) (document : Json)
  deriving Inhabited, Repr

/-- The operator that spells a comparison. -/
def Comparison.symbol : Comparison → String
  | .equal => "=="
  | .atLeast => ">="
  | .atMost => "<="

/-- The comparison that an operator spells. -/
def Comparison.ofSymbol? (symbol : String) : Option Comparison :=
  [equal, atLeast, atMost].find? (·.symbol = symbol)

/-- The document of a path operand or condition. -/
def pathDocument (path : String) : Json := .obj [("var", .str path)]

/-- The document that an operand stands for, if it has one: the absent value has none. -/
def Operand.toDocument? : Operand → Option Json
  | .path p => some (pathDocument p)
  | .literal value => some value
  | .absent => none

/-- The mark written for an absent operand, which no document can spell. -/
def absentMark : Json := .obj [("$undefined", .bool true)]

/-- The document of an operand. -/
def Operand.toDocument (operand : Operand) : Json := operand.toDocument?.getD absentMark

namespace Condition

mutual
/-- The document that spells a condition; an invalid one keeps its own. -/
def toDocument : Condition → Json
  | .truthy path => pathDocument path
  | .compare comparison left right =>
    .obj [(comparison.symbol, .arr [left.toDocument, right.toDocument])]
  | .all conditions => .obj [("and", .arr (toDocuments conditions))]
  | .any conditions => .obj [("or", .arr (toDocuments conditions))]
  | .invalid _ document => document

/-- The documents of the conditions of a group. -/
def toDocuments : List Condition → List Json
  | [] => []
  | condition :: rest => toDocument condition :: toDocuments rest
end

mutual
/-- Decides equality of conditions. -/
def decEq : (a b : Condition) → Decidable (a = b)
  | .truthy p, b => match b with
    | .truthy q => if h : p = q then isTrue (by rw [h]) else isFalse (by simpa using h)
    | .compare .. | .all _ | .any _ | .invalid .. => isFalse nofun
  | .compare c l r, b => match b with
    | .compare d m s =>
      if h : c = d ∧ l = m ∧ r = s then isTrue (by rw [h.1, h.2.1, h.2.2])
      else isFalse (by simpa using h)
    | .truthy _ | .all _ | .any _ | .invalid .. => isFalse nofun
  | .all xs, b => match b with
    | .all ys => match decEqAll xs ys with
      | isTrue h => isTrue (by rw [h])
      | isFalse h => isFalse (by simpa using h)
    | .truthy _ | .compare .. | .any _ | .invalid .. => isFalse nofun
  | .any xs, b => match b with
    | .any ys => match decEqAll xs ys with
      | isTrue h => isTrue (by rw [h])
      | isFalse h => isFalse (by simpa using h)
    | .truthy _ | .compare .. | .all _ | .invalid .. => isFalse nofun
  | .invalid reason document, b => match b with
    | .invalid reason' document' =>
      if h : reason = reason' ∧ document = document' then isTrue (by rw [h.1, h.2])
      else isFalse (by simpa using h)
    | .truthy _ | .compare .. | .all _ | .any _ => isFalse nofun

/-- Decides equality of lists of conditions. -/
def decEqAll : (a b : List Condition) → Decidable (a = b)
  | [], [] => isTrue rfl
  | [], _ :: _ => isFalse nofun
  | _ :: _, [] => isFalse nofun
  | x :: xs, y :: ys => match decEq x y, decEqAll xs ys with
    | isTrue h, isTrue g => isTrue (by rw [h, g])
    | isFalse h, _ => isFalse (by simp [h])
    | _, isFalse g => isFalse (by simp [g])
end

instance : DecidableEq Condition := decEq

end Condition

end Automation
