import Automation.Identifier
import Automation.Proofs.Json.Finite
import Automation.Proofs.Time.Timestamp
import Automation.Proofs.Validation.Field

/-!
# Values that are written and read again

A reader and a writer fit together when what was read of some document is read again of what is
written of it. The reader may take many documents for one value, by other names, as numbers or as
texts; the writer has one for each value. Numbers that strict JSON cannot express are written as
`null`, so the documents here are without them.

## Main definitions

* `Validation.Reloads` — a reader and a writer fit together.

## Main statements

* `Validation.text_reloads`, `Validation.integer_reloads`, … — the readers of values.
* `Validation.Reloads.list`, `Validation.Reloads.map`, `Validation.Reloads.nullable` — lists, objects
  and values that may be `null`.
* `Validation.Reloads.required`, `Validation.Reloads.optional` — the fields of a record.
-/

namespace Automation

variable {α β : Type}

namespace Validated

theorem ap_of_ok {function : Validated (α → β)} {argument : Validated α} {f : α → β} {a : α}
    (hfunction : function = .ok f) (hargument : argument = .ok a) :
    function.ap argument = .ok (f a) :=
  ap_eq_ok_iff.mpr ⟨f, a, hfunction, hargument, rfl⟩

/-- Results are accepted together exactly when each is. -/
theorem sequence_eq_ok_iff {results : List (Validated α)} {values : List α} :
    sequence results = .ok values ↔
      List.Forall₂ (fun result value => result = .ok value) results values := by
  induction results generalizing values with
  | nil => cases values <;> simp [sequence]
  | cons result rest ih =>
    simp only [sequence, ap_eq_ok_iff, map_eq_ok_iff, ih, List.forall₂_cons_left_iff]
    constructor
    · rintro ⟨_, others, ⟨value, hvalue, rfl⟩, hothers, rfl⟩
      exact ⟨value, others, hvalue, hothers, rfl⟩
    · rintro ⟨value, others, hvalue, hothers, rfl⟩
      exact ⟨_, others, ⟨value, hvalue, rfl⟩, hothers, rfl⟩

end Validated

namespace Validation

open Json (Members)

variable {read : Json → Validated α} {write : α → Json} {fields : Members} {names : List String}
  {value : Json} {a default : α}

/-! ## Accepted values -/

theorem nonEmptyText_eq_ok_iff {s : String} :
    nonEmptyText value = .ok s ↔ value = .str s ∧ Text.hasHalf s = false ∧ s ≠ "" := by
  unfold nonEmptyText
  split
  next t htext =>
    obtain rfl := text_eq_ok_iff.mp htext
    constructor
    · intro h
      split at h
      · cases h
      split at h
      · cases h
      next hhalf hempty =>
        obtain rfl := Except.ok.inj h
        exact ⟨rfl, eq_false_of_ne_true hhalf, hempty⟩
    · rintro ⟨heq, hhalf, hempty⟩
      obtain rfl := Json.str.inj heq
      rw [hhalf, if_neg Bool.false_ne_true, if_neg hempty]
  next issues htext =>
    have hother : value ≠ .str s := fun h => by
      rw [text_eq_ok_iff.mpr h] at htext
      cases htext
    simp [hother]

theorem timestamp_eq_ok_iff {t : Timestamp} :
    timestamp value = .ok t ↔ Timestamp.ofJson value = .ok t := by
  unfold timestamp
  split <;> simp_all [Validated.refuse]

theorem list_eq_ok_iff {values : List α} : list read value = .ok values ↔
    ∃ elems, value = .arr elems ∧
      List.Forall₂ (fun elem value => read elem = .ok value) elems values := by
  have helems : ∀ (elems : List Json) (values : List α) (place : Nat → Step),
      Validated.sequence (elems.mapIdx fun i elem => Validated.under (place i) (read elem)) =
          .ok values ↔ List.Forall₂ (fun elem value => read elem = .ok value) elems values := by
    intro elems
    induction elems with
    | nil => simp [Validated.sequence_eq_ok_iff]
    | cons elem rest ih =>
      intro values place
      rw [List.mapIdx_cons, Validated.sequence_eq_ok_iff, List.forall₂_cons_left_iff,
        List.forall₂_cons_left_iff]
      simp only [← Validated.sequence_eq_ok_iff, Validated.under_eq_ok_iff,
        ih _ fun i => place (i + 1)]
  cases value with
  | arr elems => simp [list, helems elems values .position]
  | null | bool _ | num _ | str _ | obj _ => simp [list, Validated.refuse]

theorem mapping_eq_ok_iff {entries : List (String × α)} : map read value = .ok entries ↔
    ∃ members, value = .obj members ∧
      List.Forall₂ (fun member entry => member.1 = entry.1 ∧ read member.2 = .ok entry.2)
        members entries := by
  have hentry : ∀ (member : String × Json) (entry : String × α),
      (Validated.under (.field member.1) (read member.2)).map (member.1, ·) = .ok entry ↔
        member.1 = entry.1 ∧ read member.2 = .ok entry.2 := by
    rintro ⟨key, value⟩ ⟨key', a⟩
    simp only [map_eq_ok_iff, Validated.under_eq_ok_iff, Prod.mk.injEq]
    constructor
    · rintro ⟨_, hread, hkey, rfl⟩
      exact ⟨hkey, hread⟩
    · rintro ⟨hkey, hread⟩
      exact ⟨a, hread, hkey, rfl⟩
  cases value with
  | obj members =>
    simp [map, Validated.sequence_eq_ok_iff, hentry]
  | null | bool _ | num _ | str _ | arr _ => simp [map, Validated.refuse]

/-! ## Fields of accepted records -/

/-- What is present under one of the names is what stands there. -/
theorem lookup_of_present? {name : String} (h : present? names fields = some (name, value)) :
    fields.lookup name = some value := by
  obtain ⟨name', -, hname⟩ := List.exists_of_findSome?_eq_some h
  obtain ⟨value', hlookup, hsame⟩ := Option.map_eq_some_iff.mp hname
  obtain ⟨rfl, rfl⟩ := Prod.mk.inj hsame
  exact hlookup

/-- A field that has to be there was read of what stands under one of its names. -/
theorem exists_of_required (h : required names read fields = .ok a) :
    ∃ name value, fields.lookup name = some value ∧ read value = .ok a := by
  unfold required at h
  split at h
  next name value hpresent =>
    exact ⟨name, value, lookup_of_present? hpresent, Validated.under_eq_ok_iff.mp h⟩
  · cases h

/-- A field that may be absent is its default or was read of what stands under one of its names. -/
theorem eq_default_or_exists_of_optional (h : optional names default read fields = .ok a) :
    a = default ∨ ∃ name value, fields.lookup name = some value ∧ read value = .ok a := by
  unfold optional at h
  split at h
  next name value hpresent =>
    exact .inr ⟨name, value, lookup_of_present? hpresent, Validated.under_eq_ok_iff.mp h⟩
  · exact .inl (Except.ok.inj h).symm

theorem required_of_lookup {name : String} (hlookup : fields.lookup name = some value)
    (hread : read value = .ok a) : required (name :: names) read fields = .ok a := by
  simp [required, present?, hlookup, hread]

theorem optional_of_lookup {name : String} (hlookup : fields.lookup name = some value)
    (hread : read value = .ok a) : optional (name :: names) default read fields = .ok a := by
  simp [optional, present?, hlookup, hread]

/-! ## Readers and writers that fit together -/

/-- What was read of a document is read again of what is written of it. -/
def Reloads (read : Json → Validated α) (write : α → Json) : Prop :=
  ∀ ⦃document : Json⦄ ⦃value : α⦄, document.hasUnwritable = false →
    read document = .ok value → read (write value) = .ok value

theorem text_reloads : Reloads text .str := fun _ _ _ _ => rfl

theorem nonEmptyText_reloads : Reloads nonEmptyText .str := by
  intro document s _ h
  rw [nonEmptyText_eq_ok_iff] at h ⊢
  exact ⟨rfl, h.2⟩

theorem integer_reloads : Reloads integer .ofInt := fun _ _ _ _ => rfl

theorem anything_reloads : Reloads anything Json.finiteOrNull := by
  rintro document value hfinite h
  obtain rfl := Except.ok.inj h
  rw [Json.finiteOrNull_eq_self document hfinite]
  rfl

theorem members_reloads : Reloads members fun ms => (Json.obj ms).finiteOrNull := by
  rintro document ms hfinite h
  cases document with
  | obj fields =>
    obtain rfl : fields = ms := Except.ok.inj h
    simp only [Json.finiteOrNull_eq_self _ hfinite]
    rfl
  | null | bool _ | num _ | str _ | arr _ => cases h

theorem timestamp_reloads : Reloads timestamp fun t => .str t.text := by
  intro document t _ h
  rw [timestamp_eq_ok_iff] at h ⊢
  rw [Timestamp.ofJson, Timestamp.ofText_text (Timestamp.sound_of_ofJson h)]

theorem identifier_reloads : Reloads Identifier.ofJson Identifier.toJson := by
  rintro document (i | s) _ _ <;> rfl

theorem Reloads.list (h : Reloads read write) :
    Reloads (list read) fun values => .arr (values.map write) := by
  intro document values hfinite hread
  obtain ⟨elems, rfl, hvalues⟩ := list_eq_ok_iff.mp hread
  refine list_eq_ok_iff.mpr ⟨_, rfl, ?_⟩
  rw [List.forall₂_map_left_iff, List.forall₂_same]
  exact forall_mem_of_forall₂ hvalues fun elem helem value hvalue =>
    h (Json.hasUnwritable_arr_eq_false_iff.mp hfinite elem helem) hvalue

theorem Reloads.map (h : Reloads read write) :
    Reloads (map read) fun entries => .obj (entries.map fun (key, a) => (key, write a)) := by
  intro document entries hfinite hread
  obtain ⟨members, rfl, hentries⟩ := mapping_eq_ok_iff.mp hread
  refine mapping_eq_ok_iff.mpr ⟨_, rfl, ?_⟩
  rw [List.forall₂_map_left_iff, List.forall₂_same]
  exact forall_mem_of_forall₂ hentries fun member hmember entry hentry =>
    ⟨rfl, h (Json.hasUnwritable_obj_eq_false_iff.mp hfinite member hmember) hentry.2⟩

/-- A value that may be `null` is written as such only when there is none. -/
theorem Reloads.nullable (h : Reloads read write)
    (hwrite : ∀ ⦃document a⦄, document.hasUnwritable = false → document ≠ .null →
      read document = .ok a → write a ≠ .null) :
    Reloads (nullable read) fun a? => a?.elim .null write := by
  intro document a? hfinite hread
  rcases nullable_eq_ok_iff.mp hread with ⟨-, rfl⟩ | ⟨hnull, a, ha, rfl⟩
  · rfl
  · exact nullable_eq_ok_iff.mpr (.inr ⟨hwrite hfinite hnull ha, a, h hfinite ha, rfl⟩)

/-- A field that has to be there is read again of what is written of it. -/
theorem Reloads.required (h : Reloads read write) (hfinite : (Json.obj fields).hasUnwritable = false)
    (hread : required names read fields = .ok a) : read (write a) = .ok a := by
  obtain ⟨name, value, hlookup, hvalue⟩ := exists_of_required hread
  exact h (Json.hasUnwritable_of_lookup hfinite hlookup) hvalue

/-- A field that may be absent is read again of what is written of it, the default included. -/
theorem Reloads.optional (h : Reloads read write) (hdefault : read (write default) = .ok default)
    (hfinite : (Json.obj fields).hasUnwritable = false)
    (hread : optional names default read fields = .ok a) : read (write a) = .ok a := by
  rcases eq_default_or_exists_of_optional hread with rfl | ⟨name, value, hlookup, hvalue⟩
  · exact hdefault
  · exact h (Json.hasUnwritable_of_lookup hfinite hlookup) hvalue

end Validation

end Automation
