import Automation.Proofs.Condition.Document
import Automation.Proofs.Json.Finite

/-!
# The document of a condition

A condition that was read of a document has a document of its own, in which each path stands as a
plain text. It spells the same condition again, so reading and writing a condition once more changes
nothing, and it holds no number that the first document did not hold.

## Main statements

* `Condition.ofDocument_eq_ok_iff` — a document is read into a condition exactly when it is one of
  the spellings.
* `Condition.ofDocument_toDocument` — the document of a condition spells that condition.
* `Condition.hasUnwritable_toDocument` — it can be expressed if the first document can.
-/

namespace Automation.Condition

open ConditionDocument

variable {document value : Json} {condition : Condition} {operand : Operand}

/-! ## Spellings are read -/

@[simp] theorem ofSymbol?_symbol (comparison : Comparison) :
    Comparison.ofSymbol? comparison.symbol = some comparison := by
  cases comparison <;> rfl

theorem symbol_ne_var (comparison : Comparison) : comparison.symbol ≠ "var" := by
  cases comparison <;> decide

/-- An operand is read from its value alone; the document around it is only for faults. -/
theorem readOperand_of_ok (h : readOperand (fun _ => none) value document = .ok operand)
    (whole : Json) : readOperand (fun _ => none) value whole = .ok operand := by
  simp only [readOperand] at h ⊢
  split at h
  next args =>
    obtain ⟨path, hpath, rfl⟩ := map_eq_ok_iff.mp h
    exact map_eq_ok_iff.mpr ⟨path, readPath_eq_ok_iff.mpr (readPath_eq_ok_iff.mp hpath), rfl⟩
  · cases h
  · exact h

/-- Every spelling is read into its condition. -/
theorem ofDocument_of_spelling (h : Spelling document condition) :
    ofDocument document = .ok condition := by
  cases h with
  | truthy hpath =>
    exact map_eq_ok_iff.mpr ⟨_, readPath_eq_ok_iff.mpr hpath, rfl⟩
  | compare comparison hleft hright =>
    simp [ofDocument, ofDocumentWith, readComparison, symbol_ne_var, bind, Except.bind,
      readOperand_of_ok hleft, readOperand_of_ok hright]
  | all hmembers =>
    exact map_eq_ok_iff.mpr ⟨_, ofDocumentsWith_eq_ok_iff.mpr hmembers, rfl⟩
  | any hmembers =>
    exact map_eq_ok_iff.mpr ⟨_, ofDocumentsWith_eq_ok_iff.mpr hmembers, rfl⟩

theorem ofDocument_eq_ok_iff : ofDocument document = .ok condition ↔ Spelling document condition :=
  ⟨spelling_of_ofDocument, ofDocument_of_spelling⟩

/-! ## The documents of conditions -/

theorem toDocuments_eq_map (conditions : List Condition) :
    toDocuments conditions = conditions.map toDocument := by
  induction conditions with
  | nil => rfl
  | cons condition rest ih => rw [toDocuments, ih, List.map_cons]

/-- What is read of an operand is a path or the literal itself. -/
theorem operand_of_readOperand (h : readOperand (fun _ => none) value document = .ok operand) :
    (∃ path, operand = .path path) ∨ operand = .literal value := by
  simp only [readOperand] at h
  split at h
  next args =>
    obtain ⟨path, -, rfl⟩ := map_eq_ok_iff.mp h
    exact .inl ⟨path, rfl⟩
  · cases h
  · cases h
    exact .inr rfl

theorem readOperand_toDocument (h : readOperand (fun _ => none) value document = .ok operand)
    (whole : Json) : readOperand (fun _ => none) operand.toDocument whole = .ok operand := by
  rcases operand_of_readOperand h with ⟨path, rfl⟩ | rfl
  · rfl
  · exact readOperand_of_ok h whole

theorem hasUnwritable_pathDocument (path : String) : (pathDocument path).hasUnwritable = false :=
  rfl

theorem hasUnwritable_operand (h : readOperand (fun _ => none) value document = .ok operand)
    (hfinite : value.hasUnwritable = false) : operand.toDocument.hasUnwritable = false := by
  rcases operand_of_readOperand h with ⟨path, rfl⟩ | rfl
  · exact hasUnwritable_pathDocument path
  · exact hfinite

/-- The document of a condition spells that condition. -/
theorem ofDocument_toDocument (h : ofDocument document = .ok condition) :
    ofDocument condition.toDocument = .ok condition := by
  induction document using ConditionDocument.induction generalizing condition with
  | _ document ih =>
    have hgroup : ∀ {operator documents conditions},
        document = .obj [(operator, .arr documents)] →
        List.Forall₂ (fun d c => ofDocument d = .ok c) documents conditions →
        List.Forall₂ (fun d c => ofDocument d = .ok c) (toDocuments conditions) conditions := by
      intro operator documents conditions hshape hmembers
      rw [toDocuments_eq_map, List.forall₂_map_left_iff, List.forall₂_same]
      exact forall_mem_of_forall₂ hmembers fun d hd c hc => ih operator documents hshape d hd hc
    rw [ofDocument_eq_ok_iff]
    cases spelling_of_ofDocument h with
    | truthy hpath => exact .truthy rfl
    | @compare comparison left right whole l r hleft hright =>
      exact .compare comparison (readOperand_toDocument hleft whole)
        (readOperand_toDocument hright whole)
    | all hmembers => exact .all (hgroup rfl hmembers)
    | any hmembers => exact .any (hgroup rfl hmembers)

/-- The document of a condition has no number that the document it was read of did not have. -/
theorem hasUnwritable_toDocument (h : ofDocument document = .ok condition)
    (hfinite : document.hasUnwritable = false) :
    condition.toDocument.hasUnwritable = false := by
  induction document using ConditionDocument.induction generalizing condition with
  | _ document ih =>
    have hargs : ∀ {operator elems}, document = .obj [(operator, .arr elems)] →
        ∀ elem ∈ elems, elem.hasUnwritable = false := by
      rintro operator elems rfl
      exact Json.hasUnwritable_arr_eq_false_iff.mp
        (Json.hasUnwritable_obj_eq_false_iff.mp hfinite _ List.mem_cons_self)
    have hgroup : ∀ {operator documents conditions},
        document = .obj [(operator, .arr documents)] →
        List.Forall₂ (fun d c => ofDocument d = .ok c) documents conditions →
        ∀ d ∈ toDocuments conditions, d.hasUnwritable = false := by
      intro operator documents conditions hshape hmembers
      rw [toDocuments_eq_map, List.forall_mem_map]
      exact forall_mem_of_forall₂ hmembers fun d hd c hc =>
        ih operator documents hshape d hd hc (hargs hshape d hd)
    have hwhole : ∀ {operator : String} {elems : List Json},
        (∀ elem ∈ elems, elem.hasUnwritable = false) →
        (Json.obj [(operator, .arr elems)]).hasUnwritable = false := by
      intro operator elems helems
      rw [Json.hasUnwritable_obj_eq_false_iff, List.forall_mem_singleton]
      exact Json.hasUnwritable_arr_eq_false_iff.mpr helems
    cases spelling_of_ofDocument h with
    | truthy hpath => exact hasUnwritable_pathDocument _
    | @compare comparison left right whole l r hleft hright =>
      refine hwhole (List.forall_mem_cons.mpr ⟨?_, List.forall_mem_singleton.mpr ?_⟩)
      · exact hasUnwritable_operand hleft (hargs rfl left (by simp))
      · exact hasUnwritable_operand hright (hargs rfl right (by simp))
    | all hmembers => exact hwhole (hgroup rfl hmembers)
    | any hmembers => exact hwhole (hgroup rfl hmembers)

/-- The document of a condition is an object. -/
theorem toDocument_ne_null (h : ofDocument document = .ok condition) :
    condition.toDocument ≠ .null := by
  cases spelling_of_ofDocument h <;> exact Json.noConfusion

end Automation.Condition
