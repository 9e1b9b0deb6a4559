import Automation.Json.Basic
import Mathlib.Data.List.Forall2

/-!
# The same JSON value

Two JSON values are the same when they are built in the same way from the same parts: lists element
by element, objects key by key in whatever order the keys come. How numbers are compared is left
open; a boolean is the same as the same boolean alone.

## Main definitions

* `Json.Same` — two values are the same, given when two numbers are.
* `Json.KeysOnce` — no object in a value has a key twice.

## Main statements

* `Json.induction` — induction on a value by way of its elements and members.
* `Json.same_single_iff` — objects of one member are the same when key and value are.
-/

namespace Automation.Json

/-- Two values are the same, given when two numbers are. -/
inductive Same (sameNumber : Number → Number → Prop) : Json → Json → Prop
  | null : Same sameNumber .null .null
  | bool (b : Bool) : Same sameNumber (.bool b) (.bool b)
  | num {m n : Number} (h : sameNumber m n) : Same sameNumber (.num m) (.num n)
  | str (s : String) : Same sameNumber (.str s) (.str s)
  | arr {xs ys : List Json} (h : List.Forall₂ (Same sameNumber) xs ys) :
      Same sameNumber (.arr xs) (.arr ys)
  | obj {ms ns : Members} (keys : ∀ key, (ms.lookup key).isSome = (ns.lookup key).isSome)
      (h : ∀ key x y, ms.lookup key = some x → ns.lookup key = some y → Same sameNumber x y) :
      Same sameNumber (.obj ms) (.obj ns)

/-- No object in a value has a key twice. -/
inductive KeysOnce : Json → Prop
  | null : KeysOnce .null
  | bool (b : Bool) : KeysOnce (.bool b)
  | num (n : Number) : KeysOnce (.num n)
  | str (s : String) : KeysOnce (.str s)
  | arr {elems : List Json} (h : ∀ elem ∈ elems, KeysOnce elem) : KeysOnce (.arr elems)
  | obj {members : Members} (keys : (members.map Prod.fst).Nodup)
      (h : ∀ member ∈ members, KeysOnce member.2) : KeysOnce (.obj members)

theorem KeysOnce.of_arr {elems : List Json} (h : KeysOnce (.arr elems)) :
    ∀ elem ∈ elems, KeysOnce elem := by
  cases h with
  | arr h => exact h

theorem KeysOnce.of_obj {members : Members} (h : KeysOnce (.obj members)) :
    (members.map Prod.fst).Nodup ∧ ∀ member ∈ members, KeysOnce member.2 := by
  cases h with
  | obj keys h => exact ⟨keys, h⟩

/-- Induction on a value by way of its elements and members. -/
theorem induction {P : Json → Prop} (null : P .null) (bool : ∀ b, P (.bool b))
    (num : ∀ n, P (.num n)) (str : ∀ s, P (.str s))
    (arr : ∀ elems, (∀ elem ∈ elems, P elem) → P (.arr elems))
    (obj : ∀ members, (∀ member ∈ members, P member.2) → P (.obj members)) :
    ∀ value, P value
  | .null => null
  | .bool b => bool b
  | .num n => num n
  | .str s => str s
  | .arr elems => arr elems fun elem _ => induction null bool num str arr obj elem
  | .obj members => obj members fun member _ => induction null bool num str arr obj member.2
termination_by value => sizeOf value
decreasing_by
  · have hlt := List.sizeOf_lt_of_mem ‹elem ∈ elems›
    simp only [Json.arr.sizeOf_spec]
    omega
  · have hlt := List.sizeOf_lt_of_mem ‹member ∈ members›
    have hpair : sizeOf member = 1 + sizeOf member.1 + sizeOf member.2 := rfl
    simp only [Json.obj.sizeOf_spec]
    omega

/-! ## Members -/

variable {sameNumber : Number → Number → Prop}

theorem mem_of_lookup {members : Members} {key : String} {value : Json}
    (h : members.lookup key = some value) : (key, value) ∈ members := by
  obtain ⟨before, after, rfl, -⟩ := List.lookup_eq_some_iff.mp h
  simp

theorem lookup_of_mem {α : Type} {members : List (String × α)}
    (hkeys : (members.map Prod.fst).Nodup) {member : String × α} (hmem : member ∈ members) :
    members.lookup member.1 = some member.2 := by
  obtain ⟨before, after, rfl⟩ := List.append_of_mem hmem
  refine List.lookup_eq_some_iff.mpr ⟨before, after, rfl, fun other hother => ?_⟩
  simp only [List.map_append, List.map_cons, List.nodup_append] at hkeys
  have hne : other.1 ≠ member.1 :=
    hkeys.2.2 _ (List.mem_map_of_mem hother) _ List.mem_cons_self
  simpa using hne.symm

theorem isSome_lookup_iff {members : Members} {key : String} :
    (members.lookup key).isSome = true ↔ key ∈ members.map Prod.fst := by
  simp only [List.lookup_isSome_iff, beq_iff_eq, List.mem_map]
  exact exists_congr fun member => and_congr_right fun _ => eq_comm

/-! ## Same values -/

theorem same_str_iff {s t : String} : Same sameNumber (.str s) (.str t) ↔ s = t := by
  constructor
  · intro h
    cases h
    rfl
  · rintro rfl
    exact .str s

theorem same_arr_iff {xs ys : List Json} :
    Same sameNumber (.arr xs) (.arr ys) ↔ List.Forall₂ (Same sameNumber) xs ys := by
  constructor
  · intro h
    cases h with
    | arr h => exact h
  · exact .arr

/-- Objects of one member are the same when key and value are. -/
theorem same_single_iff {key key' : String} {value value' : Json} :
    Same sameNumber (.obj [(key, value)]) (.obj [(key', value')]) ↔
      key = key' ∧ Same sameNumber value value' := by
  constructor
  · intro h
    cases h with
    | obj keys h =>
      have hmem : key ∈ [(key', value')].map Prod.fst := by
        rw [← isSome_lookup_iff, ← keys key, isSome_lookup_iff]
        exact List.mem_cons_self
      obtain rfl : key = key' := List.mem_singleton.mp hmem
      exact ⟨rfl, h key value value' (by simp) (by simp)⟩
  · rintro ⟨rfl, h⟩
    refine .obj (fun other => Bool.eq_iff_iff.mpr ?_) fun other x y hx hy => ?_
    · rw [isSome_lookup_iff, isSome_lookup_iff]
      rfl
    · obtain ⟨-, rfl⟩ := Prod.mk.inj (List.mem_singleton.mp (mem_of_lookup hx))
      obtain ⟨-, rfl⟩ := Prod.mk.inj (List.mem_singleton.mp (mem_of_lookup hy))
      exact h

end Automation.Json
