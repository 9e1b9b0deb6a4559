import Automation.Proofs.Condition.Canonical

/-!
# The grammar of condition documents

A condition document is a path document, a comparison of two operands, or a group of condition
documents. The grammar is given as a relation between a document and the tree that it spells, node
for node: paths stand as a text or as the only element of a list, and an operand that is no object
stands for itself, whatever is in it. Reading a document gives the tree that the grammar gives it,
and refuses every document that the grammar does not generate.

## Main definitions

* `ConditionDocument.SpellsPath`, `ConditionDocument.SpellsOperand`, `ConditionDocument.Spells` — a
  document spells a path, an operand or a condition.

## Main statements

* `Condition.ofDocument_eq_ok_iff_spells` — a document is read into the condition that it spells.
* `Condition.part_of_ofDocument_eq_error` — the refusal of a document is the refusal of one of its
  parts.
* `Condition.ofDocument_accepts_grammar` — what is accepted, what it is read into, and what is
  refused.
-/

namespace Automation

namespace ConditionDocument

/-- A document spells a path: the path stands as a text, or as the only element of a list. -/
inductive SpellsPath : Json → String → Prop
  | text (path : String) : SpellsPath (.obj [("var", .str path)]) path
  | listed (path : String) : SpellsPath (.obj [("var", .arr [.str path])]) path

/-- A value spells an operand: the path of a path document, or itself when it is no object. -/
inductive SpellsOperand : Json → Operand → Prop
  | path {document : Json} {path : String} (h : SpellsPath document path) :
      SpellsOperand document (.path path)
  | literal {value : Json} (h : ∀ members, value ≠ .obj members) :
      SpellsOperand value (.literal value)

/-- The operators of comparisons. -/
inductive Denotes : String → Comparison → Prop
  | equal : Denotes "==" .equal
  | atLeast : Denotes ">=" .atLeast
  | atMost : Denotes "<=" .atMost

/-- A document spells a condition, node for node and in order. -/
inductive Spells : Json → Condition → Prop
  | path {document : Json} {path : String} (h : SpellsPath document path) :
      Spells document (.truthy path)
  | compare {operator : String} {comparison : Comparison} {left right : Json} {l r : Operand}
      (known : Denotes operator comparison) (hleft : SpellsOperand left l)
      (hright : SpellsOperand right r) :
      Spells (.obj [(operator, .arr [left, right])]) (.compare comparison l r)
  | all {documents : List Json} {conditions : List Condition}
      (h : List.Forall₂ Spells documents conditions) :
      Spells (.obj [("and", .arr documents)]) (.all conditions)
  | any {documents : List Json} {conditions : List Condition}
      (h : List.Forall₂ Spells documents conditions) :
      Spells (.obj [("or", .arr documents)]) (.any conditions)

theorem spellsPath_iff {document : Json} {path : String} :
    SpellsPath document path ↔ ∃ args, document = .obj [("var", args)] ∧
      pathText? args = some path := by
  constructor
  · intro h
    cases h with
    | text => exact ⟨_, rfl, rfl⟩
    | listed => exact ⟨_, rfl, rfl⟩
  · rintro ⟨args, rfl, hpath⟩
    unfold pathText? at hpath
    split at hpath
    · cases hpath
      exact .text path
    · cases hpath
      exact .listed path
    · cases hpath

theorem denotes_iff {operator : String} {comparison : Comparison} :
    Denotes operator comparison ↔ comparison.symbol = operator := by
  constructor
  · intro h
    cases h <;> rfl
  · rintro rfl
    cases comparison with
    | equal => exact .equal
    | atLeast => exact .atLeast
    | atMost => exact .atMost

end ConditionDocument

namespace Condition

open ConditionDocument

variable {document whole value args : Json} {documents : List Json} {condition : Condition}
  {operand : Operand} {e : ParseError}

/-! ## Documents of the grammar -/

theorem readOperand_eq_ok_iff_spells :
    readOperand (fun _ => none) value whole = .ok operand ↔ SpellsOperand value operand := by
  constructor
  · intro h
    simp only [readOperand] at h
    split at h
    next args =>
      obtain ⟨path, hpath, rfl⟩ := map_eq_ok_iff.mp h
      exact .path (spellsPath_iff.mpr ⟨args, rfl, readPath_eq_ok_iff.mp hpath⟩)
    · cases h
    next hobject =>
      cases h
      exact .literal hobject
  · intro h
    cases h with
    | path hpath =>
      obtain ⟨args, rfl, htext⟩ := spellsPath_iff.mp hpath
      exact map_eq_ok_iff.mpr ⟨_, readPath_eq_ok_iff.mpr htext, rfl⟩
    | literal hobject =>
      cases value with
      | obj members => exact absurd rfl (hobject members)
      | null | bool _ | num _ | str _ | arr _ => rfl

theorem spells_of_ofDocument (h : ofDocument document = .ok condition) :
    Spells document condition := by
  induction document using ConditionDocument.induction generalizing condition with
  | _ document ih =>
    cases spelling_of_ofDocument h with
    | truthy hpath => exact .path (spellsPath_iff.mpr ⟨_, rfl, hpath⟩)
    | compare comparison hleft hright =>
      exact .compare (denotes_iff.mpr rfl) (readOperand_eq_ok_iff_spells.mp hleft)
        (readOperand_eq_ok_iff_spells.mp hright)
    | all hmembers => exact .all (forall₂_of_mem hmembers fun d hd c hc => ih _ _ rfl d hd hc)
    | any hmembers => exact .any (forall₂_of_mem hmembers fun d hd c hc => ih _ _ rfl d hd hc)

theorem ofDocument_of_spells (h : Spells document condition) :
    ofDocument document = .ok condition := by
  induction document using ConditionDocument.induction generalizing condition with
  | _ document ih =>
    apply ofDocument_of_spelling
    cases h with
    | path hpath =>
      obtain ⟨args, rfl, htext⟩ := spellsPath_iff.mp hpath
      exact .truthy htext
    | @compare operator comparison left right l r known hleft hright =>
      obtain rfl := denotes_iff.mp known
      have hleft : readOperand (fun _ => none) left .null = .ok l :=
        readOperand_eq_ok_iff_spells.mpr hleft
      exact .compare comparison hleft (readOperand_eq_ok_iff_spells.mpr hright)
    | all hmembers => exact .all (forall₂_of_mem hmembers fun d hd c hc => ih _ _ rfl d hd hc)
    | any hmembers => exact .any (forall₂_of_mem hmembers fun d hd c hc => ih _ _ rfl d hd hc)

/-- A document is read into the condition that it spells. -/
theorem ofDocument_eq_ok_iff_spells :
    ofDocument document = .ok condition ↔ Spells document condition :=
  ⟨spells_of_ofDocument, ofDocument_of_spells⟩

/-! ## Documents outside the grammar -/

theorem document_of_readPath_eq_error (h : readPath value document = .error e) :
    e.document = document := by
  unfold readPath at h
  split at h <;> cases h
  rfl

theorem document_of_readOperand_eq_error
    (h : readOperand (fun _ => none) value document = .error e) : e.document = document := by
  simp only [readOperand] at h
  split at h
  · exact document_of_readPath_eq_error (map_eq_error_iff.mp h)
  · cases h
    rfl
  · cases h

theorem document_of_readComparison_eq_error {comparison : Comparison}
    (h : readComparison (fun _ => none) comparison args document = .error e) :
    e.document = document := by
  unfold readComparison at h
  split at h
  next left right =>
    simp only [bind, Except.bind] at h
    split at h
    next hleft =>
      cases h
      exact document_of_readOperand_eq_error hleft
    · split at h
      next hright =>
        cases h
        exact document_of_readOperand_eq_error hright
      · cases h
  · cases h
    rfl

theorem exists_mem_of_ofDocumentsWith_eq_error
    (h : ofDocumentsWith (fun _ => none) documents = .error e) :
    ∃ member ∈ documents, ofDocument member = .error e := by
  induction documents with
  | nil => simp [ofDocumentsWith] at h
  | cons document rest ih =>
    simp only [ofDocumentsWith] at h
    split at h
    next hfirst =>
      cases h
      exact ⟨document, List.mem_cons_self, hfirst⟩
    · split at h
      next hrest =>
        cases h
        obtain ⟨member, hmember, herror⟩ := ih hrest
        exact ⟨member, List.mem_cons_of_mem _ hmember, herror⟩
      · cases h

/-- A document is refused for itself, or for a member of its group. -/
theorem self_or_member_of_ofDocument_eq_error (h : ofDocument document = .error e) :
    e.document = document ∨ ∃ operator documents, (operator = "and" ∨ operator = "or") ∧
      document = .obj [(operator, .arr documents)] ∧
      ∃ member ∈ documents, ofDocument member = .error e := by
  unfold ofDocument ofDocumentWith at h
  split at h
  next operator args =>
    split at h
    · exact .inl (document_of_readPath_eq_error (map_eq_error_iff.mp h))
    split at h
    · exact .inl (document_of_readComparison_eq_error h)
    split at h
    next hand =>
      split at h
      next documents =>
        exact .inr ⟨operator, documents, .inl hand, rfl,
          exists_mem_of_ofDocumentsWith_eq_error (map_eq_error_iff.mp h)⟩
      · cases h
        exact .inl rfl
    split at h
    next hor =>
      split at h
      next documents =>
        exact .inr ⟨operator, documents, .inr hor, rfl,
          exists_mem_of_ofDocumentsWith_eq_error (map_eq_error_iff.mp h)⟩
      · cases h
        exact .inl rfl
    · cases h
      exact .inl rfl
  · cases h
    exact .inl rfl
  · cases h
    exact .inl rfl

/-- The refusal of a document shows one of its parts, which is refused in the same way on its
own. -/
theorem part_of_ofDocument_eq_error (h : ofDocument document = .error e) :
    Part e.document document ∧ ofDocument e.document = .error e := by
  induction document using ConditionDocument.induction with
  | _ document ih =>
    rcases self_or_member_of_ofDocument_eq_error h with
      hself | ⟨operator, documents, known, hshape, member, hmember, herror⟩
    · rw [hself]
      exact ⟨.self, h⟩
    · obtain ⟨hpart, hown⟩ := ih operator documents hshape member hmember herror
      rw [hshape]
      exact ⟨.inside known hmember hpart, hown⟩

/-- Exactly the documents of the grammar are accepted, and each is read into the condition that it
spells. A document with a malformed part, however deep and whatever stands beside it, is refused,
and the refusal shows such a part. -/
theorem ofDocument_accepts_grammar (document : Json) :
    ((∃ condition, ofDocument document = .ok condition) ↔ WellFormed document) ∧
      (∀ condition, ofDocument document = .ok condition ↔ Spells document condition) ∧
      ∀ part, Part part document → ¬ WellFormed part →
        ∃ e, ofDocument document = .error e ∧ Part e.document document ∧
          ¬ WellFormed e.document := by
  refine ⟨exists_ofDocument_iff, fun _ => ofDocument_eq_ok_iff_spells, ?_⟩
  intro part hpart hbroken
  cases hread : ofDocument document with
  | ok condition => exact absurd ((wellFormed_of_ofDocument hread).of_part hpart) hbroken
  | error e =>
    obtain ⟨hshown, hown⟩ := part_of_ofDocument_eq_error hread
    refine ⟨e, rfl, hshown, fun hwell => ?_⟩
    obtain ⟨condition, hcondition⟩ := exists_ofDocument_iff.mpr hwell
    simp [hown] at hcondition

/-- A condition that holds of subjects with a flag, beside a group with a broken comparison. -/
def flaggedOrBroken : Json := .obj [("or", .arr [
  .obj [("var", .arr [.str "payload.vip"])],
  .obj [("and", .arr [.obj [("==", .arr [.obj [("unknown", .ofNat 1)], .ofNat 2])]])]])]

theorem ofDocument_accepts_grammar_flaggedOrBroken :
    let broken : Json := .obj [("==", .arr [.obj [("unknown", .ofNat 1)], .ofNat 2])]
    Part broken flaggedOrBroken ∧ ¬ WellFormed broken ∧
      ∃ e, ofDocument flaggedOrBroken = .error e ∧ Part e.document flaggedOrBroken ∧
        ¬ WellFormed e.document := by
  intro broken
  have hpart : Part broken flaggedOrBroken :=
    .inside (.inr rfl) (.tail _ (.head _)) (.inside (.inl rfl) (.head _) .self)
  have hbroken : ¬ WellFormed broken := by
    rw [← (ofDocument_accepts_grammar broken).1]
    rintro ⟨condition, hread⟩
    have hrefused : ofDocument broken = .error ⟨.operandNotLiteral, broken⟩ := rfl
    cases hrefused.symm.trans hread
  exact ⟨hpart, hbroken, (ofDocument_accepts_grammar flaggedOrBroken).2.2 broken hpart hbroken⟩

end Condition

end Automation
