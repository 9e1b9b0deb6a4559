import Automation.Proofs.Json.Finite
import Automation.Proofs.Json.Same
import Automation.Proofs.Number.Exact

/-!
# Equality of JSON values

Values are compared by going through them side by side. Two values that are the same are equal.
Inside lists and objects a boolean counts as the number `0` or `1`, so two values that are equal may
be different after all; if they are, a boolean of the one stands where the other has a number.

## Main definitions

* `Json.Opposed` — one of two values is a boolean and the other is a number.
* `Json.Facing` — two values stand at the same place in two lists or two objects.
* `Json.Clash` — somewhere inside two values a boolean faces a number.

## Main statements

* `Json.nestedEq_of_same`, `Json.same_of_nestedEq` — parts of values are equal when they are the
  same, and are the same when they are equal and nothing clashes.
* `Json.looselyEq_iff_nestedEq` — whole values are equal when they are as parts and not opposed.
-/

namespace Automation.Json

/-- One of two values is a boolean and the other is a number. -/
inductive Opposed : Json → Json → Prop
  | flag (b : Bool) (n : Number) : Opposed (.bool b) (.num n)
  | number (n : Number) (b : Bool) : Opposed (.num n) (.bool b)

/-- Two values stand at the same place in two lists or two objects. -/
inductive Facing (x y : Json) : Json → Json → Prop
  | elem {xs ys : List Json} {i : ℕ} (hx : xs[i]? = some x) (hy : ys[i]? = some y) :
      Facing x y (.arr xs) (.arr ys)
  | member {ms ns : Members} {key : String} (hx : ms.lookup key = some x)
      (hy : ns.lookup key = some y) : Facing x y (.obj ms) (.obj ns)

/-- Somewhere inside two values a boolean faces a number. -/
inductive Clash : Json → Json → Prop
  | here {x y l r : Json} (hface : Facing x y l r) (h : Opposed x y) : Clash l r
  | inside {x y l r : Json} (hface : Facing x y l r) (h : Clash x y) : Clash l r

variable {l r : Json} {xs ys : List Json} {ms ns : Members}

/-! ## Lists and objects -/

theorem nestedEqElems_iff :
    nestedEqElems xs ys = true ↔ List.Forall₂ (fun x y => nestedEq x y = true) xs ys := by
  induction xs generalizing ys with
  | nil => cases ys <;> simp [nestedEqElems]
  | cons x rest ih =>
    cases ys with
    | nil => simp [nestedEqElems]
    | cons y others => simp [nestedEqElems, ih]

theorem nestedEqMembers_iff :
    nestedEqMembers ms ns = true ↔
      ∀ m ∈ ms, ∃ y, ns.lookup m.1 = some y ∧ nestedEq m.2 y = true := by
  induction ms with
  | nil => simp [nestedEqMembers]
  | cons m rest ih =>
    rw [nestedEqMembers, Bool.and_eq_true, ih, List.forall_mem_cons]
    refine and_congr_left fun _ => ?_
    cases ns.lookup m.1 <;> simp

/-- Objects have the same keys when they have as many members and the keys of the one are keys of
the other. -/
theorem same_keys_iff (hms : (ms.map Prod.fst).Nodup) (hns : (ns.map Prod.fst).Nodup) :
    (∀ key, (ms.lookup key).isSome = (ns.lookup key).isSome) ↔
      ms.length = ns.length ∧ ∀ m ∈ ms, (ns.lookup m.1).isSome = true := by
  have hkeys : (∀ key, (ms.lookup key).isSome = (ns.lookup key).isSome) ↔
      (ms.map Prod.fst).Perm (ns.map Prod.fst) := by
    rw [List.perm_ext_iff_of_nodup hms hns]
    refine forall_congr' fun key => ?_
    rw [Bool.eq_iff_iff, isSome_lookup_iff, isSome_lookup_iff]
  rw [hkeys]
  constructor
  · intro hperm
    refine ⟨by simpa using hperm.length_eq, fun m hm => ?_⟩
    exact isSome_lookup_iff.mpr (hperm.mem_iff.mp (List.mem_map_of_mem hm))
  · rintro ⟨hlength, hall⟩
    have hsubset : ms.map Prod.fst ⊆ ns.map Prod.fst := by
      intro key hkey
      obtain ⟨m, hm, rfl⟩ := List.mem_map.mp hkey
      exact isSome_lookup_iff.mp (hall m hm)
    exact (List.subperm_of_subset hms hsubset).perm_of_length_le (by simp [hlength])

/-! ## Values that are the same are equal -/

theorem nestedEq_of_same (h : l.Same Number.SameValue r) (hl : l.KeysOnce) (hr : r.KeysOnce) :
    l.nestedEq r = true := by
  induction l using Json.induction generalizing r with
  | null =>
    cases h
    rfl
  | bool b =>
    cases h
    cases b <;> rfl
  | num m =>
    cases h with
    | num hvalue => simp [nestedEq, nestedNumber?, Number.eqv_of_sameValue hvalue]
  | str s =>
    cases h
    simp [nestedEq]
  | arr xs ih =>
    cases h with
    | arr helems =>
      obtain ⟨hlength, helems⟩ := List.forall₂_iff_get.mp helems
      refine nestedEqElems_iff.mpr (List.forall₂_iff_get.mpr ⟨hlength, fun i hx hy => ?_⟩)
      exact ih _ (List.get_mem _ _) (helems i hx hy) (hl.of_arr _ (List.get_mem _ _))
        (hr.of_arr _ (List.get_mem _ _))
  | obj ms ih =>
    cases h with
    | @obj _ ns keys hmembers =>
      obtain ⟨hms, hl⟩ := hl.of_obj
      obtain ⟨hns, hr⟩ := hr.of_obj
      obtain ⟨hlength, hsome⟩ := (same_keys_iff hms hns).mp keys
      simp only [nestedEq, hlength, decide_true, Bool.true_and, nestedEqMembers_iff]
      intro m hm
      obtain ⟨y, hy⟩ := Option.isSome_iff_exists.mp (hsome m hm)
      exact ⟨y, hy, ih m hm (hmembers m.1 m.2 y (lookup_of_mem hms hm) hy) (hl m hm)
        (hr _ (mem_of_lookup hy))⟩

/-! ## Values that are equal -/

theorem exists_value? {n : Number} (h : (num n).hasUnwritable = false) :
    ∃ q, n.value? = some q := by
  rcases n with i | (_ | _ | _)
  · exact ⟨_, rfl⟩
  · exact ⟨_, rfl⟩
  · cases h
  · cases h

/-- Equal values in which nothing clashes are the same. -/
theorem same_of_nestedEq (h : l.nestedEq r = true) (hl : l.KeysOnce) (hr : r.KeysOnce)
    (hfinite : l.hasUnwritable = false) (hopposed : ¬ Opposed l r) (hclash : ¬ Clash l r) :
    l.Same Number.SameValue r := by
  -- what faces each other inside is neither opposed nor clashing, since nothing clashes outside
  induction l using Json.induction generalizing r with
  | null =>
    cases r with
    | null => exact .null
    | bool _ | num _ | str _ | arr _ | obj _ => cases h
  | bool b =>
    cases r with
    | bool b' =>
      have hb : b = b' := by
        revert h
        cases b <;> cases b' <;> decide
      exact hb ▸ .bool b
    | num n => exact absurd (.flag b n) hopposed
    | null | str _ | arr _ | obj _ => cases h
  | num m =>
    cases r with
    | num n =>
      obtain ⟨q, hm⟩ := exists_value? hfinite
      have heqv : m.eqv n = true := by
        simpa [nestedEq, nestedNumber?, Number.isNaN_of_value? hm] using h
      exact .num ((Number.eqv_iff_sameValue hm).mp heqv)
    | bool b => exact absurd (.number m b) hopposed
    | null | str _ | arr _ | obj _ => cases h
  | str s =>
    cases r with
    | str t =>
      obtain rfl : s = t := by simpa [nestedEq] using h
      exact .str s
    | null | bool _ | num _ | arr _ | obj _ => cases h
  | arr xs ih =>
    cases r with
    | arr ys =>
      obtain ⟨hlength, helems⟩ := List.forall₂_iff_get.mp (nestedEqElems_iff.mp h)
      refine .arr (List.forall₂_iff_get.mpr ⟨hlength, fun i hx hy => ?_⟩)
      have hface : Facing (xs.get ⟨i, hx⟩) (ys.get ⟨i, hy⟩) (.arr xs) (.arr ys) :=
        .elem (List.getElem?_eq_getElem hx) (List.getElem?_eq_getElem hy)
      exact ih _ (List.get_mem _ _) (helems i hx hy) (hl.of_arr _ (List.get_mem _ _))
        (hr.of_arr _ (List.get_mem _ _))
        (hasUnwritable_arr_eq_false_iff.mp hfinite _ (List.get_mem _ _))
        (fun hopposed => hclash (.here hface hopposed))
        fun hinside => hclash (.inside hface hinside)
    | null | bool _ | num _ | str _ | obj _ => cases h
  | obj ms ih =>
    cases r with
    | obj ns =>
      obtain ⟨hms, hl⟩ := hl.of_obj
      obtain ⟨hns, hr⟩ := hr.of_obj
      simp only [nestedEq, Bool.and_eq_true, decide_eq_true_eq, nestedEqMembers_iff] at h
      obtain ⟨hlength, hmembers⟩ := h
      have hsome : ∀ m ∈ ms, (ns.lookup m.1).isSome = true := by
        intro m hm
        obtain ⟨y, hy, -⟩ := hmembers m hm
        rw [hy, Option.isSome_some]
      refine .obj ((same_keys_iff hms hns).mpr ⟨hlength, hsome⟩) fun key x y hx hy => ?_
      have hm := mem_of_lookup hx
      have hface : Facing x y (.obj ms) (.obj ns) := .member hx hy
      obtain ⟨y', hy', hequal⟩ := hmembers _ hm
      obtain rfl : y' = y := by simpa [hy] using hy'.symm
      exact ih _ hm hequal (hl _ hm) (hr _ (mem_of_lookup hy))
        (hasUnwritable_obj_eq_false_iff.mp hfinite _ hm)
        (fun hopposed => hclash (.here hface hopposed))
        fun hinside => hclash (.inside hface hinside)
    | null | bool _ | num _ | str _ | arr _ => cases h

/-! ## Whole values -/

/-- Whole values are equal when they are as parts, except that a boolean never equals a number. -/
theorem looselyEq_iff_nestedEq (hfinite : l.hasUnwritable = false) :
    l.looselyEq r = true ↔ l.nestedEq r = true ∧ ¬ Opposed l r := by
  cases l with
  | bool b =>
    cases r with
    | bool b' =>
      refine Iff.trans ?_ (and_iff_left nofun).symm
      cases b <;> cases b' <;> decide
    | num n => exact iff_of_false nofun fun h => h.2 (.flag b n)
    | null | str _ | arr _ | obj _ => exact (and_iff_left nofun).symm
  | num m =>
    cases r with
    | num n =>
      obtain ⟨q, hm⟩ := exists_value? hfinite
      refine Iff.trans ?_ (and_iff_left nofun).symm
      simp [looselyEq, nestedEq, nestedNumber?, Number.isNaN_of_value? hm]
    | bool b => exact iff_of_false nofun fun h => h.2 (.number m b)
    | null | str _ | arr _ | obj _ => exact (and_iff_left nofun).symm
  | null | str _ | arr _ | obj _ => cases r <;> exact (and_iff_left nofun).symm

end Automation.Json
