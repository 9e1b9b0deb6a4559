import Automation.Number

/-!
# JSON values

JSON values whose objects keep the order of their members, as event payloads, policy documents
and platform bodies are made of. A key occurs once in an object: writing it again keeps its place
and replaces its value.

## Main definitions

* `Json` — the value type, with decidable equality.
* `Json.Members` — the ordered members of an object, and `Members.set`.
* `Json.isTruthy` — whether a value counts as true.
* `Json.looselyEq` — equality by value, in which a nested boolean counts as a number.
* `Json.finiteOrNull` — a value as strict JSON can express it.
-/

namespace Automation

/-- A JSON value. -/
inductive Json where
  | null
  | bool (b : Bool)
  | num (n : Number)
  | str (s : String)
  | arr (elems : List Json)
  | obj (members : List (String × Json))
  deriving Inhabited, Repr

namespace Json

/-- The members of an object, in their order. -/
abbrev Members := List (String × Json)

/-- Whether a key is present. -/
def Members.has (members : Members) (key : String) : Bool :=
  members.any fun m => m.1 = key

/-- Give `key` a value: in its place when the key is present, at the end otherwise. -/
def Members.set (members : Members) (key : String) (value : Json) : Members :=
  match members with
  | [] => [(key, value)]
  | (k, v) :: rest =>
    if k = key then (k, value) :: rest else (k, v) :: Members.set rest key value

/-- The members written one after another, a later value replacing an earlier one. -/
def Members.ofList (pairs : List (String × Json)) : Members :=
  pairs.foldl (fun members (key, value) => members.set key value) []

/-- The integer value of a whole number. -/
def ofInt (i : Int) : Json := .num (.int i)

/-- The value of a natural number. -/
def ofNat (n : Nat) : Json := .num (.int n)

/-- The value under a key, when the value is an object that has it. -/
def get? : Json → String → Option Json
  | .obj members, key => members.lookup key
  | _, _ => none

mutual
/-- Decides equality of values. -/
def decEq : (a b : Json) → Decidable (a = b)
  | .null, b => match b with
    | .null => isTrue rfl
    | .bool _ | .num _ | .str _ | .arr _ | .obj _ => isFalse nofun
  | .bool x, b => match b with
    | .bool y => if h : x = y then isTrue (by rw [h]) else isFalse (by simpa using h)
    | .null | .num _ | .str _ | .arr _ | .obj _ => isFalse nofun
  | .num x, b => match b with
    | .num y => if h : x = y then isTrue (by rw [h]) else isFalse (by simpa using h)
    | .null | .bool _ | .str _ | .arr _ | .obj _ => isFalse nofun
  | .str x, b => match b with
    | .str y => if h : x = y then isTrue (by rw [h]) else isFalse (by simpa using h)
    | .null | .bool _ | .num _ | .arr _ | .obj _ => isFalse nofun
  | .arr xs, b => match b with
    | .arr ys => match decEqElems xs ys with
      | isTrue h => isTrue (by rw [h])
      | isFalse h => isFalse (by simpa using h)
    | .null | .bool _ | .num _ | .str _ | .obj _ => isFalse nofun
  | .obj xs, b => match b with
    | .obj ys => match decEqMembers xs ys with
      | isTrue h => isTrue (by rw [h])
      | isFalse h => isFalse (by simpa using h)
    | .null | .bool _ | .num _ | .str _ | .arr _ => isFalse nofun

/-- Decides equality of lists of values. -/
def decEqElems : (a b : List Json) → Decidable (a = b)
  | [], [] => isTrue rfl
  | [], _ :: _ => isFalse nofun
  | _ :: _, [] => isFalse nofun
  | x :: xs, y :: ys => match decEq x y, decEqElems xs ys with
    | isTrue h, isTrue g => isTrue (by rw [h, g])
    | isFalse h, _ => isFalse (by simp [h])
    | _, isFalse g => isFalse (by simp [g])

/-- Decides equality of members. -/
def decEqMembers : (a b : List (String × Json)) → Decidable (a = b)
  | [], [] => isTrue rfl
  | [], _ :: _ => isFalse nofun
  | _ :: _, [] => isFalse nofun
  | (k, x) :: xs, (l, y) :: ys => match decEq x y, decEqMembers xs ys with
    | isTrue h, isTrue g =>
      if e : k = l then isTrue (by rw [h, g, e]) else isFalse (by simp [e])
    | isFalse h, _ => isFalse (by simp [h])
    | _, isFalse g => isFalse (by simp [g])
end

instance : DecidableEq Json := decEq

/-- Whether a value counts as true: `null`, `false`, zeros and everything empty do not. -/
def isTruthy : Json → Bool
  | .null => false
  | .bool b => b
  | .num n => n.isTruthy
  | .str s => s ≠ ""
  | .arr elems => !elems.isEmpty
  | .obj members => !members.isEmpty

/-- The number that a value is. -/
def number? : Json → Option Number
  | .num n => some n
  | .null | .bool _ | .str _ | .arr _ | .obj _ => none

/-- The number that a value stands for inside a list or an object, where `false` and `true`
count as `0` and `1`. -/
def nestedNumber? : Json → Option Number
  | .num n => some n
  | .bool b => some (.int (if b then 1 else 0))
  | .null | .str _ | .arr _ | .obj _ => none

mutual
/-- Equality by value of two parts of larger values: numbers by exact value, booleans as the
numbers `0` and `1`, object members in any order, NaN equal to itself. -/
def nestedEq : Json → Json → Bool
  | .null, b => match b with
    | .null => true
    | .bool _ | .num _ | .str _ | .arr _ | .obj _ => false
  | .bool x, b => match b.nestedNumber? with
    | some n => Number.eqv (.int (if x then 1 else 0)) n
    | none => false
  | .num m, b => match b.nestedNumber? with
    | some n => m.eqv n || m.isNaN && n.isNaN
    | none => false
  | .str s, b => match b with
    | .str t => s = t
    | .null | .bool _ | .num _ | .arr _ | .obj _ => false
  | .arr xs, b => match b with
    | .arr ys => nestedEqElems xs ys
    | .null | .bool _ | .num _ | .str _ | .obj _ => false
  | .obj ms, b => match b with
    | .obj ns => ms.length = ns.length && nestedEqMembers ms ns
    | .null | .bool _ | .num _ | .str _ | .arr _ => false

/-- Equality by value, element by element. -/
def nestedEqElems : List Json → List Json → Bool
  | [], [] => true
  | x :: xs, y :: ys => nestedEq x y && nestedEqElems xs ys
  | [], _ :: _ => false
  | _ :: _, [] => false

/-- Whether every member on the left has its equal on the right. -/
def nestedEqMembers : List (String × Json) → List (String × Json) → Bool
  | [], _ => true
  | (k, x) :: rest, ns =>
    (match ns.lookup k with
      | some y => nestedEq x y
      | none => false) && nestedEqMembers rest ns
end

/-- Equality by value of two whole values: a boolean equals only the same boolean here, while
booleans inside lists and objects compare as the numbers `0` and `1`. -/
def looselyEq : Json → Json → Bool
  | .bool x, .bool y => x = y
  | .bool _, _ | _, .bool _ => false
  | .num m, .num n => m.eqv n
  | a, b => nestedEq a b

mutual
/-- The value with `null` for every number that JSON cannot express. -/
def finiteOrNull : Json → Json
  | .num (.float x) => if x.isFinite then .num (.float x) else .null
  | .arr elems => .arr (finiteOrNullElems elems)
  | .obj members => .obj (finiteOrNullMembers members)
  | .num (.int i) => .num (.int i)
  | .null => .null
  | .bool b => .bool b
  | .str s => .str s

/-- The elements with `null` for every number that JSON cannot express. -/
def finiteOrNullElems : List Json → List Json
  | [] => []
  | x :: rest => finiteOrNull x :: finiteOrNullElems rest

/-- The members with `null` for every number that JSON cannot express. -/
def finiteOrNullMembers : List (String × Json) → List (String × Json)
  | [] => []
  | (key, value) :: rest => (key, finiteOrNull value) :: finiteOrNullMembers rest
end

end Json

end Automation
