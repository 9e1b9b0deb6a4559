import Automation.Event.Basic
import Automation.Proofs.Condition.Document
import Automation.Proofs.Condition.Reads
import Automation.Proofs.Json.Path

/-!
# Rearranged groups

A group of conditions says the same in whatever order its members come and however often each of
them comes. It is evaluated from the left, though, and stops at the first member that settles it, so
a fault in a member counts only if it is met before that. Where no path meets a fault the order and
the number of members play no part, at any depth. Members of which all must hold can always be told
one by one, since a fault makes each of them and the whole group false.

## Main definitions

* `Condition.Rearranged` — a condition is another one with members of groups in other places or
  other numbers.
* `Condition.Resolves` — no path of a condition meets a fault in a root.

## Main statements

* `Condition.check_eq_ok_evaluate` — a condition without faults has a value.
* `Condition.Rearranged.evaluate_eq` — without faults, rearranged conditions have the same value.
* `Condition.evaluate_members` — groups by their members, and rearranged groups.
* `Condition.evaluate_any_swapped` — a fault in front of a member that holds.
-/

namespace Automation.Condition

/-- The ways to make a group of conditions. -/
inductive IsGroup : (List Condition → Condition) → Prop
  | all : IsGroup .all
  | any : IsGroup .any

/-- Conditions that differ in the places and the numbers of the members of groups, anywhere. -/
inductive Rearranged : Condition → Condition → Prop
  | refl (condition : Condition) : Rearranged condition condition
  | symm {a b : Condition} (h : Rearranged a b) : Rearranged b a
  | trans {a b c : Condition} (first : Rearranged a b) (second : Rearranged b c) : Rearranged a c
  | permuted {group : List Condition → Condition} {members others : List Condition}
      (hgroup : IsGroup group) (h : members.Perm others) :
      Rearranged (group members) (group others)
  | repeated {group : List Condition → Condition} {member : Condition} {members : List Condition}
      (hgroup : IsGroup group) (mem : member ∈ members) :
      Rearranged (group members) (group (member :: members))
  | inside {group : List Condition → Condition} {a b : Condition} (hgroup : IsGroup group)
      (before after : List Condition) (h : Rearranged a b) :
      Rearranged (group (before ++ a :: after)) (group (before ++ b :: after))

/-- No path that a condition reads meets a fault in a root: each leads somewhere or nowhere. -/
def Resolves (root : Json) (condition : Condition) : Prop :=
  ∀ path, Reads path condition → ∃ value?, Json.resolve path root = .ok value?

/-- Induction on a condition by way of the members of its group. -/
theorem induction {P : Condition → Prop} (h : ∀ condition, (∀ group members, IsGroup group →
    condition = group members → ∀ member ∈ members, P member) → P condition)
    (condition : Condition) : P condition :=
  h condition fun _ _ _ _ member _ => induction h member
termination_by sizeOf condition
decreasing_by
  rename_i group members hgroup hshape hmem
  have hlt := List.sizeOf_lt_of_mem hmem
  cases hgroup <;> simp only [hshape, all.sizeOf_spec, any.sizeOf_spec] <;> omega

variable {root : Json} {condition other : Condition} {members others : List Condition}
  {group : List Condition → Condition} {path : String}

theorem reads_truthy_iff {test : String} : Reads path (.truthy test) ↔ path = test := by
  constructor
  · rintro ⟨⟩
    rfl
  · rintro rfl
    exact .truthy

theorem reads_group_iff (hgroup : IsGroup group) :
    Reads path (group members) ↔ ∃ member ∈ members, Reads path member := by
  constructor
  · intro h
    cases hgroup with
    | all =>
      cases h with
      | all mem reads => exact ⟨_, mem, reads⟩
    | any =>
      cases h with
      | any mem reads => exact ⟨_, mem, reads⟩
  · rintro ⟨member, mem, reads⟩
    cases hgroup with
    | all => exact .all mem reads
    | any => exact .any mem reads

theorem Resolves.member (hgroup : IsGroup group) (h : Resolves root (group members)) :
    ∀ member ∈ members, Resolves root member :=
  fun member hmem path hpath => h path ((reads_group_iff hgroup).mpr ⟨member, hmem, hpath⟩)

/-- Paths whose positions have few enough digits meet no fault. -/
theorem resolves_of_legible (h : ∀ path, Reads path condition → Json.Path.Legible path)
    (root : Json) : Resolves root condition :=
  fun path hpath => ⟨_, Json.resolve_eq_at? (h path hpath) root⟩

/-! ## Values of groups -/

theorem evaluate_eq_true_iff : condition.evaluate root = true ↔ condition.check root = .ok true := by
  rw [evaluate]
  split
  next value hvalue => simp [hvalue]
  next fault hfault => simp [hfault]

theorem checkAll_eq_ok_true_iff :
    checkAll root members = .ok true ↔ ∀ member ∈ members, member.check root = .ok true := by
  induction members with
  | nil => simp [checkAll]
  | cons member rest ih =>
    rw [checkAll, List.forall_mem_cons, ← ih]
    split
    next hmember => simp [hmember]
    -- a member that is false and one with a fault both end the group without a `true`
    next hother => exact iff_of_false hother fun h => hother h.1

/-- A group of which all must hold does so exactly when each member does, faults or not. -/
theorem evaluate_all_iff :
    (Condition.all members).evaluate root = true ↔ ∀ member ∈ members, member.evaluate root = true
    := by
  simp only [evaluate_eq_true_iff, check, checkAll_eq_ok_true_iff]

theorem checkAll_eq_ok (h : ∀ member ∈ members, member.check root = .ok (member.evaluate root)) :
    checkAll root members = .ok (members.all fun member => member.evaluate root) := by
  induction members with
  | nil => rfl
  | cons member rest ih =>
    obtain ⟨hmember, hrest⟩ := List.forall_mem_cons.mp h
    rw [checkAll, hmember, ih hrest, List.all_cons]
    cases member.evaluate root <;> rfl

theorem checkAny_eq_ok (h : ∀ member ∈ members, member.check root = .ok (member.evaluate root)) :
    checkAny root members = .ok (members.any fun member => member.evaluate root) := by
  induction members with
  | nil => rfl
  | cons member rest ih =>
    obtain ⟨hmember, hrest⟩ := List.forall_mem_cons.mp h
    rw [checkAny, hmember, ih hrest, List.any_cons]
    cases member.evaluate root <;> rfl

theorem evaluate_of_check {value : Bool} (h : condition.check root = .ok value) :
    condition.evaluate root = value := by
  rw [evaluate, h]

theorem exists_value?_of_resolves {operand : Operand}
    (h : ∀ path, operand = .path path → ∃ value?, Json.resolve path root = .ok value?) :
    ∃ value?, operand.value? root = .ok value? := by
  cases operand with
  | path path => exact h path rfl
  | literal value => exact ⟨some value, rfl⟩
  | absent => exact ⟨none, rfl⟩

/-- A condition without faults has a value. -/
theorem check_eq_ok_evaluate (h : Resolves root condition) :
    condition.check root = .ok (condition.evaluate root) := by
  induction condition using Condition.induction with
  | _ condition ih =>
    suffices ∃ value, condition.check root = .ok value by
      obtain ⟨value, hvalue⟩ := this
      rw [evaluate_of_check hvalue, hvalue]
    cases condition with
    | truthy path =>
      obtain ⟨value?, hvalue⟩ := h path .truthy
      rw [check, hvalue]
      cases value? with
      | none => exact ⟨false, rfl⟩
      | some value => exact ⟨value.isTruthy, rfl⟩
    | compare comparison left right =>
      obtain ⟨l, hl⟩ := exists_value?_of_resolves fun path hpath =>
        h path (reads_compare_iff.mpr (.inl hpath))
      obtain ⟨r, hr⟩ := exists_value?_of_resolves fun path hpath =>
        h path (reads_compare_iff.mpr (.inr hpath))
      exact ⟨comparison.holds l r, by rw [check, hl, hr]⟩
    | all members =>
      exact ⟨_, checkAll_eq_ok fun member hmem =>
        ih .all members .all rfl member hmem (h.member .all member hmem)⟩
    | any members =>
      exact ⟨_, checkAny_eq_ok fun member hmem =>
        ih .any members .any rfl member hmem (h.member .any member hmem)⟩
    | invalid reason document => exact ⟨false, rfl⟩

/-- A group of which any must hold does so exactly when some member does, where no member meets a
fault. -/
theorem evaluate_any_iff (h : Resolves root (.any members)) :
    (Condition.any members).evaluate root = true ↔
      ∃ member ∈ members, member.evaluate root = true := by
  have hvalue : (Condition.any members).check root =
      .ok (members.any fun member => member.evaluate root) :=
    checkAny_eq_ok fun member hmem => check_eq_ok_evaluate (h.member .any member hmem)
  rw [evaluate_of_check hvalue, List.any_eq_true]

/-- Each condition of one list has a condition of the same value in another one. -/
def Covered (root : Json) (members others : List Condition) : Prop :=
  ∀ a ∈ members, ∃ b ∈ others, a.evaluate root = b.evaluate root

theorem covered_of_subset (h : members ⊆ others) : Covered root members others :=
  fun a ha => ⟨a, h ha, rfl⟩

/-- One member in place of another one of the same value makes no difference. -/
theorem covered_exchanged {a b : Condition} (h : a.evaluate root = b.evaluate root)
    (before after : List Condition) :
    Covered root (before ++ a :: after) (before ++ b :: after) := by
  intro x hx
  by_cases hxa : x = a
  · exact ⟨b, by simp, by rw [hxa, h]⟩
  · have hkept : x ∈ before ∨ x ∈ after := by simpa [hxa] using hx
    refine ⟨x, ?_, rfl⟩
    rcases hkept with hx | hx <;> simp [hx]

/-- Groups of one kind that cover each other have the same value. -/
theorem evaluate_group_congr (hgroup : IsGroup group) (hmembers : Resolves root (group members))
    (hothers : Resolves root (group others)) (h : Covered root members others)
    (h' : Covered root others members) :
    (group members).evaluate root = (group others).evaluate root := by
  rw [Bool.eq_iff_iff]
  cases hgroup with
  | all =>
    rw [evaluate_all_iff, evaluate_all_iff]
    constructor
    -- each member of the one group is settled by the member of the other one that covers it
    · intro hall b hb
      obtain ⟨a, ha, hba⟩ := h' b hb
      rw [hba, hall a ha]
    · intro hall a ha
      obtain ⟨b, hb, hab⟩ := h a ha
      rw [hab, hall b hb]
  | any =>
    rw [evaluate_any_iff hmembers, evaluate_any_iff hothers]
    constructor
    · rintro ⟨a, ha, htrue⟩
      obtain ⟨b, hb, hab⟩ := h a ha
      exact ⟨b, hb, hab ▸ htrue⟩
    · rintro ⟨b, hb, htrue⟩
      obtain ⟨a, ha, hba⟩ := h' b hb
      exact ⟨a, ha, hba ▸ htrue⟩

/-! ## Rearranged conditions -/

/-- Rearranged conditions read the same paths. -/
theorem Rearranged.reads_iff (h : Rearranged condition other) :
    Reads path condition ↔ Reads path other := by
  induction h with
  | refl => rfl
  | symm _ ih => exact ih.symm
  | trans _ _ ihFirst ihSecond => exact ihFirst.trans ihSecond
  | permuted hgroup hperm =>
    rw [reads_group_iff hgroup, reads_group_iff hgroup]
    simp only [hperm.mem_iff]
  | repeated hgroup hmem =>
    rw [reads_group_iff hgroup, reads_group_iff hgroup, List.exists_mem_cons_iff]
    exact ⟨.inr, fun h => h.elim (fun hread => ⟨_, hmem, hread⟩) id⟩
  | inside hgroup before after _ ih =>
    rw [reads_group_iff hgroup, reads_group_iff hgroup]
    simp only [List.mem_append, List.mem_cons, or_and_right, exists_or, exists_eq_left, ih]

theorem Rearranged.resolves (h : Rearranged condition other) (hresolves : Resolves root condition) :
    Resolves root other :=
  fun path hpath => hresolves path (h.reads_iff.mpr hpath)

/-- Rearranged conditions have the same value where no path meets a fault. -/
theorem Rearranged.evaluate_eq (h : Rearranged condition other)
    (hresolves : Resolves root condition) : condition.evaluate root = other.evaluate root := by
  have hother := h.resolves hresolves
  induction h with
  | refl => rfl
  | symm _ ih => exact (ih hother hresolves).symm
  | trans first _ ihFirst ihSecond =>
    have hmiddle := first.resolves hresolves
    exact (ihFirst hresolves hmiddle).trans (ihSecond hmiddle hother)
  | permuted hgroup hperm =>
    exact evaluate_group_congr hgroup hresolves hother (covered_of_subset hperm.subset)
      (covered_of_subset hperm.symm.subset)
  | repeated hgroup hmem =>
    exact evaluate_group_congr hgroup hresolves hother
      (covered_of_subset (List.subset_cons_self _ _))
      (covered_of_subset (List.cons_subset.mpr ⟨hmem, List.Subset.refl _⟩))
  | @inside group a b hgroup before after _ ih =>
    have hab : a.evaluate root = b.evaluate root :=
      ih (hresolves.member hgroup a (by simp)) (hother.member hgroup b (by simp))
    exact evaluate_group_congr hgroup hresolves hother (covered_exchanged hab before after)
      (covered_exchanged hab.symm before after)

/-- A group of which all must hold has the value that its members give it one by one. So has a group
of which any must hold, and any rearranged condition has the value that it had, where no path meets
a list with a position of too many digits. -/
theorem evaluate_members (event : Event) :
    (∀ members, (Condition.all members).evaluate event.root = true ↔
        ∀ member ∈ members, member.evaluate event.root = true) ∧
      (∀ members, Resolves event.root (.any members) →
        ((Condition.any members).evaluate event.root = true ↔
          ∃ member ∈ members, member.evaluate event.root = true)) ∧
      ∀ condition other, Rearranged condition other → Resolves event.root condition →
        other.evaluate event.root = condition.evaluate event.root :=
  ⟨fun _ => evaluate_all_iff, fun _ => evaluate_any_iff,
    fun _ _ h hresolves => (h.evaluate_eq hresolves).symm⟩

/-! ## Two orders of one condition -/

/-- An order of nothing. -/
def emptyOrder : Event :=
  ⟨.number 1, "acme", .number 42, "order.paid", [("items", .arr [])], ⟨0, 0⟩⟩

theorem evaluate_members_emptyOrder :
    let flagged := Condition.truthy "payload.vip"
    let ordered := Condition.compare .equal (.path "payload.items") (.literal (.arr []))
    Rearranged (.any [flagged, ordered]) (.any [ordered, flagged]) ∧
      Resolves emptyOrder.root (.any [flagged, ordered]) ∧
      (Condition.any [ordered, flagged]).evaluate emptyOrder.root =
        (Condition.any [flagged, ordered]).evaluate emptyOrder.root := by
  intro flagged ordered
  have hswapped : Rearranged (.any [flagged, ordered]) (.any [ordered, flagged]) :=
    .permuted .any (.swap ordered flagged [])
  have hresolves : Resolves emptyOrder.root (.any [flagged, ordered]) := by
    refine resolves_of_legible (fun path hpath => ?_) _
    obtain ⟨member, hmem, hreads⟩ := (reads_group_iff .any).mp hpath
    rcases List.mem_pair.mp hmem with rfl | rfl
    · obtain rfl := reads_truthy_iff.mp hreads
      unfold Json.Path.Legible
      decide
    · rcases reads_compare_iff.mp hreads with hpath | hpath <;> cases hpath
      unfold Json.Path.Legible
      decide
  exact ⟨hswapped, hresolves, (evaluate_members emptyOrder).2.2 _ _ hswapped hresolves⟩

/-- The path to an item of an order. -/
def itemPath (position : String) : String := "payload" ++ "." ++ ("items" ++ "." ++ position)

/-- What an empty order says to a position is what its path leads to. -/
theorem resolve_itemPath {position : String} {fault : Json.PositionTooLong}
    (hdot : '.' ∉ position.toList) (hstep : (Json.arr []).step position = .error fault) :
    Json.resolve (itemPath position) emptyOrder.root = .error fault := by
  have hparts : Json.Path.parts (itemPath position) = ["payload", "items", position] := by
    rw [itemPath, Json.parts_append, Json.parts_append, Json.parts_of_no_dot (by decide),
      Json.parts_of_no_dot (by decide), Json.parts_of_no_dot hdot]
    rfl
  have hpayload : emptyOrder.root.step "payload" = .ok (some (.obj emptyOrder.payload)) := rfl
  have hitems : (Json.obj emptyOrder.payload).step "items" = .ok (some (.arr [])) := rfl
  simp only [Json.resolve, hparts, Json.walk, hpayload, hitems, hstep]

theorem mapM_replicate_asciiDigit? (count : Nat) :
    (List.replicate count '9').mapM Text.asciiDigit? = some (List.replicate count 9) := by
  induction count with
  | zero => rfl
  | succ count ih =>
    rw [List.replicate_succ, List.replicate_succ, List.mapM_cons, ih]
    rfl

/-- A position of nines. -/
def nines (count : Nat) : String := String.ofList (List.replicate count '9')

theorem step_nines {count : Nat} (hcount : Text.maxIntegerDigits < count) (elems : List Json) :
    (Json.arr elems).step (nines count) = .error ⟨count⟩ := by
  have hposition : Json.Path.position? (nines count) = some (List.replicate count 9) := by
    obtain ⟨rest, rfl⟩ := Nat.exists_eq_succ_of_ne_zero (Nat.ne_zero_of_lt hcount)
    rw [← mapM_replicate_asciiDigit?, Json.Path.position?, nines, String.toList_ofList,
      List.replicate_succ]
  rw [Json.step, hposition]
  simp only [List.length_replicate, if_pos hcount]

theorem resolve_nines {count : Nat} (hcount : Text.maxIntegerDigits < count) :
    Json.resolve (itemPath (nines count)) emptyOrder.root = .error ⟨count⟩ := by
  have hdot : '.' ∉ (nines count).toList := by
    rw [nines, String.toList_ofList]
    simp
  exact resolve_itemPath hdot (step_nines hcount [])

/-- A member that holds makes its group hold, but not behind a path to a position of too many
digits. -/
theorem evaluate_any_swapped :
    let distant := Condition.truthy (itemPath (nines 4301))
    let trivial := Condition.all []
    Rearranged (.any [trivial, distant]) (.any [distant, trivial]) ∧
      trivial.evaluate emptyOrder.root = true ∧
      (Condition.any [trivial, distant]).evaluate emptyOrder.root = true ∧
      (Condition.any [distant, trivial]).evaluate emptyOrder.root = false := by
  refine ⟨.permuted .any (.swap _ _ _), rfl, rfl, ?_⟩
  have hfault : (Condition.truthy (itemPath (nines 4301))).check emptyOrder.root =
      .error ⟨4301⟩ := by
    rw [check, resolve_nines (by decide)]
  rw [evaluate, check, checkAny, hfault]

end Automation.Condition
