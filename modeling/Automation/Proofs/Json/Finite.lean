import Automation.Json.Writer

/-!
# Values that strict JSON can express

A value without infinite and undefined numbers is as it is when it is written: nothing in it is
replaced by `null`. It can go out if there are no halves of surrogate pairs in its texts either.

## Main statements

* `Json.hasUnwritable_arr_eq_false_iff`, `Json.hasUnwritable_obj_eq_false_iff` — a list or an object
  can be expressed exactly when its parts can.
* `Json.finiteOrNull_eq_self` — a value that can be expressed is left alone.
* `Json.isSendable_arr_iff`, `Json.isSendable_obj_iff` — a list or an object can go out exactly when
  its parts can.
-/

namespace Automation.Json

variable {value : Json} {elems : List Json} {members : Members}

theorem hasUnwritable_arr_eq_false_iff :
    (arr elems).hasUnwritable = false ↔ ∀ elem ∈ elems, elem.hasUnwritable = false := by
  simp only [hasUnwritable, firstNonFinite?, Option.isSome_eq_false_iff, Option.isNone_iff_eq_none]
  induction elems with
  | nil => simp [firstNonFiniteElem?]
  | cons elem rest ih =>
    simp only [firstNonFiniteElem?, Option.orElse_eq_orElse, Option.orElse_eq_or,
      Option.or_eq_none_iff, ih, List.forall_mem_cons]

theorem hasUnwritable_obj_eq_false_iff :
    (obj members).hasUnwritable = false ↔ ∀ member ∈ members, member.2.hasUnwritable = false := by
  simp only [hasUnwritable, firstNonFinite?, Option.isSome_eq_false_iff, Option.isNone_iff_eq_none]
  induction members with
  | nil => simp [firstNonFiniteMember?]
  | cons member rest ih =>
    simp only [firstNonFiniteMember?, Option.orElse_eq_orElse, Option.orElse_eq_or,
      Option.or_eq_none_iff, ih, List.forall_mem_cons]

/-- What is under a key of an object that can be expressed can be expressed. -/
theorem hasUnwritable_of_lookup (h : (obj members).hasUnwritable = false) {key : String}
    (hlookup : members.lookup key = some value) : value.hasUnwritable = false := by
  obtain ⟨before, after, rfl, -⟩ := List.lookup_eq_some_iff.mp hlookup
  exact hasUnwritable_obj_eq_false_iff.mp h (key, value) (by simp)

mutual
/-- A value that can be expressed is left alone. -/
theorem finiteOrNull_eq_self : (value : Json) → value.hasUnwritable = false →
    value.finiteOrNull = value
  | .null, _ | .bool _, _ | .str _, _ | .num (.int _), _ => rfl
  | .num (.float x), h => by
    cases hfinite : x.isFinite with
    | true => rw [finiteOrNull, if_pos hfinite]
    | false => simp [hasUnwritable, firstNonFinite?, hfinite] at h
  | .arr elems, h => by
    rw [finiteOrNull, finiteOrNullElems_eq_self elems (hasUnwritable_arr_eq_false_iff.mp h)]
  | .obj members, h => by
    rw [finiteOrNull, finiteOrNullMembers_eq_self members (hasUnwritable_obj_eq_false_iff.mp h)]

theorem finiteOrNullElems_eq_self : (elems : List Json) →
    (∀ elem ∈ elems, elem.hasUnwritable = false) → finiteOrNullElems elems = elems
  | [], _ => rfl
  | elem :: rest, h => by
    rw [finiteOrNullElems, finiteOrNull_eq_self elem (h elem List.mem_cons_self),
      finiteOrNullElems_eq_self rest fun e he => h e (List.mem_cons_of_mem _ he)]

theorem finiteOrNullMembers_eq_self : (members : List (String × Json)) →
    (∀ member ∈ members, member.2.hasUnwritable = false) → finiteOrNullMembers members = members
  | [], _ => rfl
  | (key, value) :: rest, h => by
    rw [finiteOrNullMembers, finiteOrNull_eq_self value (h (key, value) List.mem_cons_self),
      finiteOrNullMembers_eq_self rest fun m hm => h m (List.mem_cons_of_mem _ hm)]
end

/-! ## Values that can go out -/

theorem isSendable_iff :
    value.isSendable = true ↔ value.hasUnwritable = false ∧ value.hasHalf = false := by
  simp [isSendable]

theorem hasHalf_arr_eq_false_iff :
    (arr elems).hasHalf = false ↔ ∀ elem ∈ elems, elem.hasHalf = false := by
  rw [hasHalf]
  induction elems with
  | nil => simp [anyElemHasHalf]
  | cons elem rest ih => simp only [anyElemHasHalf, Bool.or_eq_false_iff, ih, List.forall_mem_cons]

theorem hasHalf_obj_eq_false_iff : (obj members).hasHalf = false ↔
    ∀ member ∈ members, Text.hasHalf member.1 = false ∧ member.2.hasHalf = false := by
  rw [hasHalf]
  induction members with
  | nil => simp [anyMemberHasHalf]
  | cons member rest ih =>
    simp only [anyMemberHasHalf, Bool.or_eq_false_iff, ih, List.forall_mem_cons]

theorem isSendable_str {s : String} : (str s).isSendable = !Text.hasHalf s := by
  simp [isSendable, hasUnwritable, firstNonFinite?, hasHalf]

theorem isSendable_arr_iff :
    (arr elems).isSendable = true ↔ ∀ elem ∈ elems, elem.isSendable = true := by
  simp only [isSendable_iff, hasUnwritable_arr_eq_false_iff, hasHalf_arr_eq_false_iff, imp_and,
    forall_and]

theorem isSendable_obj_iff : (obj members).isSendable = true ↔
    ∀ member ∈ members, Text.hasHalf member.1 = false ∧ member.2.isSendable = true := by
  simp only [isSendable_iff, hasUnwritable_obj_eq_false_iff, hasHalf_obj_eq_false_iff, imp_and,
    forall_and]
  exact and_left_comm

end Automation.Json
