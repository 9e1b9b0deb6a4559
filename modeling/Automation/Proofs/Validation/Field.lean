import Automation.Validation.Field
import Mathlib.Data.List.Forall2

/-!
# Accepted fields

What an accepted document says about its fields: a record is accepted only as an object, and only
when each of its fields is.

## Main statements

* `Validated.ap_eq_ok_iff` — fields are accepted together exactly when each is.
* `Validation.required_eq_ok_iff`, `Validation.optional_eq_ok_iff` — when a field of one name is
  accepted.
* `Json.Members.lookup_set` — the members after one of them was written.
-/

namespace Automation

variable {α β : Type}

theorem map_eq_ok_iff {ε : Type} {f : α → β} {result : Except ε α} {b : β} :
    result.map f = .ok b ↔ ∃ a, result = .ok a ∧ f a = b := by
  cases result <;> simp [Except.map]

theorem map_eq_error_iff {ε : Type} {f : α → β} {result : Except ε α} {fault : ε} :
    result.map f = .error fault ↔ result = .error fault := by
  cases result <;> simp [Except.map]

theorem bind_eq_ok_iff {ε : Type} {first : Except ε α} {next : α → Except ε β} {b : β} :
    first.bind next = .ok b ↔ ∃ a, first = .ok a ∧ next a = .ok b := by
  cases first <;> simp [Except.bind]

theorem mapError_eq_ok_iff {ε δ : Type} {f : ε → δ} {result : Except ε α} {a : α} :
    result.mapError f = .ok a ↔ result = .ok a := by
  cases result <;> simp [Except.mapError]

/-- What follows of a member of the one list for its partner holds of all of the other list. -/
theorem forall_mem_of_forall₂ {R : α → β → Prop} {S : β → Prop} {l : List α} {m : List β}
    (h : List.Forall₂ R l m) (hS : ∀ a ∈ l, ∀ b, R a b → S b) : ∀ b ∈ m, S b := by
  induction h with
  | nil => exact fun _ hb => absurd hb List.not_mem_nil
  | cons hfirst _ ih =>
    exact List.forall_mem_cons.mpr
      ⟨hS _ List.mem_cons_self _ hfirst, ih fun a ha => hS a (List.mem_cons_of_mem _ ha)⟩

namespace Validated

@[simp] theorem ap_eq_ok_iff {function : Validated (α → β)} {argument : Validated α} {b : β} :
    function.ap argument = .ok b ↔ ∃ f a, function = .ok f ∧ argument = .ok a ∧ f a = b := by
  rcases function with _ | f <;> rcases argument with _ | a <;> simp [ap]

@[simp] theorem under_eq_ok_iff {step : Validation.Step} {result : Validated α} {a : α} :
    result.under step = .ok a ↔ result = .ok a :=
  mapError_eq_ok_iff

end Validated

namespace Validation

open Json (Members)

variable {name : String} {read : Json → Validated α} {fields : Members} {a : α}

theorem record_eq_ok_iff {document : Json} {read : Members → Validated α} :
    record document read = .ok a ↔ ∃ fields, document = .obj fields ∧ read fields = .ok a := by
  cases document <;> simp [record, Validated.refuse]

@[simp] theorem text_eq_ok_iff {value : Json} {s : String} :
    text value = .ok s ↔ value = .str s := by
  cases value <;> simp [text, Validated.refuse]

/-- A field that has to be there is accepted with its value. -/
theorem required_eq_ok_iff : required [name] read fields = .ok a ↔
    ∃ value, fields.lookup name = some value ∧ read value = .ok a := by
  cases hlookup : fields.lookup name <;>
    simp [required, present?, hlookup, Validated.refuse]

/-- A field that may be absent is accepted with its value, or else is its default. -/
theorem optional_eq_ok_iff {default : α} : optional [name] default read fields = .ok a ↔
    (fields.lookup name = none ∧ a = default) ∨
      ∃ value, fields.lookup name = some value ∧ read value = .ok a := by
  cases hlookup : fields.lookup name with
  | none => simp [optional, present?, hlookup, eq_comm]
  | some value => simp [optional, present?, hlookup]

theorem le_of_integerAtLeast {bound i : Int} {value : Json}
    (h : integerAtLeast bound value = .ok i) : bound ≤ i := by
  rw [integerAtLeast] at h
  split at h
  · split at h
    next hle => exact Except.ok.inj h ▸ hle
    · cases h
  · cases h

theorem le_of_floatAtLeast {bound : Int} {x : Binary64} {value : Json}
    (h : floatAtLeast bound value = .ok x) : (Number.int bound).le (.float x) = true := by
  rw [floatAtLeast] at h
  split at h
  · split at h
    next hle => exact Except.ok.inj h ▸ hle
    · cases h
  · cases h

/-- A field that may be absent keeps what its default and all values that are read keep. -/
theorem of_optional {P : α → Prop} {default : α} (hdefault : P default)
    (hread : ∀ value a, read value = .ok a → P a)
    (h : optional [name] default read fields = .ok a) : P a := by
  rw [optional_eq_ok_iff] at h
  obtain ⟨-, rfl⟩ | ⟨value, -, hvalue⟩ := h
  · exact hdefault
  · exact hread value a hvalue

theorem nullable_eq_ok_iff {value : Json} {a? : Option α} : nullable read value = .ok a? ↔
    (value = .null ∧ a? = none) ∨ (value ≠ .null ∧ ∃ a, read value = .ok a ∧ a? = some a) := by
  cases value <;> simp [nullable, map_eq_ok_iff, @eq_comm _ a?]

/-- Whether an optional field is accepted depends on its own member alone. -/
theorem optional_congr {default : α} {fields' : Members}
    (h : fields.lookup name = fields'.lookup name) :
    optional [name] default read fields = optional [name] default read fields' := by
  simp only [optional, present?, List.findSome?_cons, List.findSome?_nil, h]

end Validation

/-- The member that was written has its value, and all others keep theirs. -/
theorem Json.Members.lookup_set (members : Members) (key name : String) (value : Json) :
    (members.set key value).lookup name =
      if name = key then some value else members.lookup name := by
  induction members with
  | nil =>
    by_cases hname : name = key
    · simp [Members.set, hname]
    · simp [Members.set, List.lookup_cons, beq_false_of_ne hname, hname]
  | cons member rest ih =>
    obtain ⟨k, v⟩ := member
    by_cases hkey : k = key
    · subst hkey
      by_cases hname : name = k
      · simp [Members.set, hname]
      · simp [Members.set, List.lookup_cons, beq_false_of_ne hname, hname]
    · rw [Members.set, if_neg hkey, List.lookup_cons, List.lookup_cons, ih]
      by_cases hname : name = key
      · subst hname
        simp [beq_false_of_ne (Ne.symm hkey)]
      · simp [hname]

end Automation
