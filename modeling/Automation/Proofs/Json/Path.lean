import Automation.Json.Path

/-!
# Parts of paths

A path falls into the parts between its dots, one at least. A part that can be a position in a list is
made of decimal digits.

## Main statements

* `Json.parts_append` — the parts of two paths with a dot between them.
* `Json.parts_of_no_dot`, `Json.eq_of_parts_eq_singleton` — a path without dots is its only part.
* `Json.parts_intercalate` — parts that are put together with dots come apart again.
* `Json.Path.position?_eq_some_iff` — the parts that can be positions, and their digits.
-/

namespace Automation.Json

theorem pieces_ne_nil (separator : Char) (cs : List Char) : pieces separator cs ≠ [] := by
  cases cs with
  | nil => exact List.cons_ne_nil _ _
  | cons c rest =>
    rw [pieces]
    split
    · exact List.cons_ne_nil _ _
    · split <;> exact List.cons_ne_nil _ _

theorem eq_of_pieces_eq_singleton {separator : Char} {cs piece : List Char}
    (h : pieces separator cs = [piece]) : cs = piece := by
  induction cs generalizing piece with
  | nil => exact List.singleton_inj.mp h
  | cons c rest ih =>
    rw [pieces] at h
    split at h
    next hc => exact absurd (List.cons_eq_cons.mp h).2 (pieces_ne_nil separator rest)
    next hc =>
      split at h
      next hnone => exact absurd hnone (pieces_ne_nil separator rest)
      next front others hsome =>
        obtain ⟨rfl, rfl⟩ : c :: front = piece ∧ others = [] := List.cons_eq_cons.mp h
        rw [ih hsome]

theorem pieces_append (separator : Char) (front back : List Char) :
    pieces separator (front ++ separator :: back) =
      pieces separator front ++ pieces separator back := by
  induction front with
  | nil => simp [pieces]
  | cons c rest ih =>
    rw [List.cons_append, pieces, pieces, ih]
    split
    · rfl
    · cases hpieces : pieces separator rest with
      | nil => exact absurd hpieces (pieces_ne_nil separator rest)
      | cons piece others => rfl

theorem pieces_of_notMem {separator : Char} {cs : List Char} (h : separator ∉ cs) :
    pieces separator cs = [cs] := by
  induction cs with
  | nil => rfl
  | cons c rest ih =>
    obtain ⟨hc, hrest⟩ := List.ne_and_not_mem_of_not_mem_cons h
    rw [pieces, if_neg hc.symm, ih hrest]

/-- The parts of two paths with a dot between them are those of the one and then those of the
other. -/
theorem parts_append (front back : String) :
    Path.parts (front ++ "." ++ back) = Path.parts front ++ Path.parts back := by
  have htext : (front ++ "." ++ back).toList = front.toList ++ '.' :: back.toList := by simp
  rw [Path.parts, htext, pieces_append, List.map_append, Path.parts, Path.parts]

theorem parts_of_no_dot {part : String} (h : '.' ∉ part.toList) : Path.parts part = [part] := by
  rw [Path.parts, pieces_of_notMem h, List.map_singleton, String.ofList_toList]

theorem parts_ne_nil (path : String) : Path.parts path ≠ [] := fun h =>
  pieces_ne_nil '.' path.toList (List.map_eq_nil_iff.mp h)

theorem eq_of_parts_eq_singleton {path part : String} (h : Path.parts path = [part]) :
    path = part := by
  obtain ⟨piece, hpieces, rfl⟩ := List.map_eq_singleton_iff.mp h
  rw [← eq_of_pieces_eq_singleton hpieces, String.ofList_toList]

/-- Parts without dots that are put together with dots come apart again. -/
theorem parts_intercalate {parts : List String} (hne : parts ≠ [])
    (hdots : ∀ part ∈ parts, '.' ∉ part.toList) : Path.parts (".".intercalate parts) = parts := by
  induction parts with
  | nil => exact absurd rfl hne
  | cons part rest ih =>
    obtain ⟨hpart, hrest⟩ := List.forall_mem_cons.mp hdots
    cases rest with
    | nil => rw [String.intercalate_singleton, parts_of_no_dot hpart]
    | cons next others =>
      rw [String.intercalate_cons_cons, parts_append, parts_of_no_dot hpart,
        ih (List.cons_ne_nil _ _) hrest]
      rfl

/-! ## Positions -/

theorem asciiDigit?_eq_some_iff {c : Char} {d : Nat} :
    Text.asciiDigit? c = some d ↔ c.isDigit = true ∧ d = c.toNat - '0'.toNat := by
  have hdigit : ('0' ≤ c ∧ c ≤ '9') ↔ c.isDigit = true := by simp [Char.isDigit, Char.le_def]
  rw [Text.asciiDigit?]
  split
  next hbounds => simp [hdigit.mp hbounds, eq_comm]
  next hbounds => simp [mt hdigit.mpr hbounds]

theorem mapM_asciiDigit?_eq_some_iff {cs : List Char} {digits : List Nat} :
    cs.mapM Text.asciiDigit? = some digits ↔
      (∀ c ∈ cs, c.isDigit = true) ∧ digits = cs.map fun c => c.toNat - '0'.toNat := by
  induction cs generalizing digits with
  | nil => exact ⟨fun h => ⟨nofun, (Option.some.inj h).symm⟩, fun h => h.2 ▸ rfl⟩
  | cons c rest ih =>
    simp only [List.mapM_cons, Option.bind_eq_bind, Option.bind_eq_some_iff, Option.pure_def,
      Option.some.injEq, ih, asciiDigit?_eq_some_iff, List.forall_mem_cons, List.map_cons]
    constructor
    · rintro ⟨d, ⟨hc, rfl⟩, others, ⟨hrest, rfl⟩, rfl⟩
      exact ⟨⟨hc, hrest⟩, rfl⟩
    · rintro ⟨⟨hc, hrest⟩, rfl⟩
      exact ⟨_, ⟨hc, rfl⟩, _, ⟨hrest, rfl⟩, rfl⟩

/-- The parts that can be positions are those of decimal digits alone, one at least. -/
theorem Path.position?_eq_some_iff {part : String} {digits : List Nat} :
    Path.position? part = some digits ↔ part.toList ≠ [] ∧
      (∀ c ∈ part.toList, c.isDigit = true) ∧
        digits = part.toList.map fun c => c.toNat - '0'.toNat := by
  rw [Path.position?]
  split
  next hempty => simp [hempty]
  next hne => exact mapM_asciiDigit?_eq_some_iff.trans (and_iff_right hne).symm

end Automation.Json
