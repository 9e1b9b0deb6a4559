import Automation.Proofs.Condition.Grammar
import Automation.Proofs.Json.Same

/-!
# Normal forms of condition documents

A path can be spelled in two ways, as a text and as a list of one text. The normal form of a
document spells every path that stands as a condition or as an operand in the first way, and is the
document otherwise: what looks like a path inside a literal is none. The document of a condition is
the normal form of the document that the condition was read of, so conditions and normal forms stand
for each other.

## Main definitions

* `ConditionDocument.normal` — the normal form of a document.
* `Operand.Same`, `Condition.Same` — two trees are the same, given when two numbers are.

## Main statements

* `Condition.toDocument_eq_normal` — the document of a condition is a normal form.
* `Condition.same_iff_same_toDocument` — conditions are the same when their documents are.
* `Condition.normal_of_ofDocument` — reading and writing documents up to the spelling of paths.
-/

namespace Automation

namespace ConditionDocument

/-- A value with its path spelled as a text, if it is a path document. -/
def plainPath : Json → Json
  | .obj [("var", .arr [.str path])] => .obj [("var", .str path)]
  | value => value

mutual
/-- A document with every path that stands as a condition or as an operand spelled as a text. -/
def normal : Json → Json
  | .obj [(operator, .arr parts)] =>
    if operator = "and" ∨ operator = "or" then .obj [(operator, .arr (normalEach parts))]
    else if operator = "var" then plainPath (.obj [(operator, .arr parts)])
    else .obj [(operator, .arr (parts.map plainPath))]
  | document => document

/-- The normal forms of the documents of a group. -/
def normalEach : List Json → List Json
  | [] => []
  | document :: rest => normal document :: normalEach rest
end

end ConditionDocument

/-- Two operands are the same, given when two numbers are. -/
inductive Operand.Same (sameNumber : Number → Number → Prop) : Operand → Operand → Prop
  | path (path : String) : Same sameNumber (.path path) (.path path)
  | literal {value other : Json} (h : value.Same sameNumber other) :
      Same sameNumber (.literal value) (.literal other)
  | absent : Same sameNumber .absent .absent

namespace Condition

open ConditionDocument

/-- Two conditions are the same node for node, given when two numbers are. -/
inductive Same (sameNumber : Number → Number → Prop) : Condition → Condition → Prop
  | truthy (path : String) : Same sameNumber (.truthy path) (.truthy path)
  | compare (comparison : Comparison) {left right left' right' : Operand}
      (hleft : left.Same sameNumber left') (hright : right.Same sameNumber right') :
      Same sameNumber (.compare comparison left right) (.compare comparison left' right')
  | all {conditions others : List Condition}
      (h : List.Forall₂ (Same sameNumber) conditions others) :
      Same sameNumber (.all conditions) (.all others)
  | any {conditions others : List Condition}
      (h : List.Forall₂ (Same sameNumber) conditions others) :
      Same sameNumber (.any conditions) (.any others)
  | invalid (reason : String) {document other : Json} (h : document.Same sameNumber other) :
      Same sameNumber (.invalid reason document) (.invalid reason other)

variable {sameNumber : Number → Number → Prop} {document document' value value' : Json}
  {condition condition' : Condition} {operand operand' : Operand}

/-! ## Documents of conditions are normal forms -/

theorem toDocument_operand_eq_plainPath (h : SpellsOperand value operand) :
    operand.toDocument = plainPath value := by
  cases h with
  | path hpath => cases hpath <;> rfl
  | literal hobject =>
    cases value with
    | obj members => exact absurd rfl (hobject members)
    | null | bool _ | num _ | str _ | arr _ => rfl

theorem toDocuments_eq_normalEach {documents : List Json} {conditions : List Condition}
    (h : List.Forall₂ (fun d c => toDocument c = normal d) documents conditions) :
    toDocuments conditions = normalEach documents := by
  induction h with
  | nil => rfl
  | cons hfirst _ ih => rw [toDocuments, normalEach, hfirst, ih]

/-- The document of a condition is the normal form of the document that spells it. -/
theorem toDocument_eq_normal (h : Spells document condition) :
    condition.toDocument = normal document := by
  induction document using ConditionDocument.induction generalizing condition with
  | _ document ih =>
    cases h with
    | path hpath => cases hpath <;> rfl
    | compare known hleft hright =>
      rw [toDocument, toDocument_operand_eq_plainPath hleft,
        toDocument_operand_eq_plainPath hright]
      cases known <;> rfl
    | all hmembers =>
      rw [toDocument, toDocuments_eq_normalEach
        (forall₂_of_mem hmembers fun d hd c hc => ih _ _ rfl d hd hc)]
      rfl
    | any hmembers =>
      rw [toDocument, toDocuments_eq_normalEach
        (forall₂_of_mem hmembers fun d hd c hc => ih _ _ rfl d hd hc)]
      rfl

/-! ## The same trees -/

theorem same_pathDocument_iff {path path' : String} :
    (pathDocument path).Same sameNumber (pathDocument path') ↔ path = path' := by
  rw [pathDocument, pathDocument, Json.same_single_iff, Json.same_str_iff, and_iff_right rfl]

theorem same_operand_iff (h : SpellsOperand value operand) (h' : SpellsOperand value' operand') :
    operand.Same sameNumber operand' ↔
      operand.toDocument.Same sameNumber operand'.toDocument := by
  cases h with
  | path hpath =>
    cases h' with
    | path hpath' =>
      refine Iff.trans ⟨?_, ?_⟩ same_pathDocument_iff.symm
      · rintro ⟨⟩
        rfl
      · rintro rfl
        exact .path _
    | literal hobject =>
      refine iff_of_false nofun fun hsame => ?_
      cases hsame with
      | obj => exact hobject _ rfl
  | literal hobject =>
    cases h' with
    | path =>
      refine iff_of_false nofun fun hsame => ?_
      cases hsame with
      | obj => exact hobject _ rfl
    | literal =>
      refine ⟨fun hsame => ?_, .literal⟩
      cases hsame with
      | literal hvalue => exact hvalue

theorem forall₂_same_iff {conditions others : List Condition} {documents : List Json}
    (h : ∀ c ∈ conditions, ∀ {d c'}, Spells d c' →
      (c.Same sameNumber c' ↔ c.toDocument.Same sameNumber c'.toDocument))
    (hothers : List.Forall₂ Spells documents others) :
    List.Forall₂ (Same sameNumber) conditions others ↔
      List.Forall₂ (Json.Same sameNumber) (toDocuments conditions) (toDocuments others) := by
  induction hothers generalizing conditions with
  | nil => cases conditions <;> simp [toDocuments]
  | cons hfirst _ ih =>
    cases conditions with
    | nil => simp [toDocuments]
    | cons condition rest =>
      rw [toDocuments, toDocuments, List.forall₂_cons, List.forall₂_cons,
        h condition List.mem_cons_self hfirst, ih fun c hc => h c (List.mem_cons_of_mem _ hc)]

theorem symbol_ne_group (comparison : Comparison) :
    comparison.symbol ≠ "and" ∧ comparison.symbol ≠ "or" := by
  cases comparison <;> decide

theorem symbol_inj {comparison comparison' : Comparison} :
    comparison.symbol = comparison'.symbol ↔ comparison = comparison' := by
  cases comparison <;> cases comparison' <;> decide

/-- Conditions that were read of documents are the same exactly when their documents are. -/
theorem same_iff_same_toDocument (h : Spells document condition)
    (h' : Spells document' condition') :
    condition.Same sameNumber condition' ↔
      condition.toDocument.Same sameNumber condition'.toDocument := by
  induction document using ConditionDocument.induction generalizing condition document' condition'
    with
  | _ document ih =>
    have hgroup : ∀ {operator documents conditions},
        document = .obj [(operator, .arr documents)] →
        List.Forall₂ Spells documents conditions →
        ∀ c ∈ conditions, ∀ {d c'}, Spells d c' →
          (c.Same sameNumber c' ↔ c.toDocument.Same sameNumber c'.toDocument) := by
      intro operator documents conditions hshape hmembers
      exact forall_mem_of_forall₂ hmembers fun d hd c hc _ _ hother =>
        ih operator documents hshape d hd hc hother
    -- documents of different operators differ in their only key
    cases h with
    | path =>
      cases h' with
      | path =>
        rw [toDocument, toDocument, same_pathDocument_iff]
        constructor
        · rintro ⟨⟩
          rfl
        · rintro rfl
          exact .truthy _
      | compare | all | any =>
        refine iff_of_false nofun ?_
        simp [toDocument, pathDocument, Json.same_single_iff, (symbol_ne_var _).symm]
    | @compare _ comparison _ _ _ _ _ hleft hright =>
      cases h' with
      | @compare _ comparison' _ _ _ _ _ hleft' hright' =>
        rw [toDocument, toDocument, Json.same_single_iff, Json.same_arr_iff, symbol_inj]
        simp only [List.forall₂_cons, List.Forall₂.nil, and_true,
          ← same_operand_iff hleft hleft', ← same_operand_iff hright hright']
        constructor
        · intro hsame
          cases hsame with
          | compare comparison hl hr => exact ⟨rfl, hl, hr⟩
        · rintro ⟨rfl, hl, hr⟩
          exact .compare comparison hl hr
      | path | all | any =>
        refine iff_of_false nofun ?_
        simp [toDocument, pathDocument, Json.same_single_iff, symbol_ne_var, symbol_ne_group]
    | all hmembers =>
      cases h' with
      | all hothers =>
        rw [toDocument, toDocument, Json.same_single_iff, Json.same_arr_iff, and_iff_right rfl,
          ← forall₂_same_iff (hgroup rfl hmembers) hothers]
        refine ⟨fun hsame => ?_, .all⟩
        cases hsame with
        | all hconditions => exact hconditions
      | path | compare | any =>
        refine iff_of_false nofun ?_
        simp [toDocument, pathDocument, Json.same_single_iff, (symbol_ne_group _).1.symm]
    | any hmembers =>
      cases h' with
      | any hothers =>
        rw [toDocument, toDocument, Json.same_single_iff, Json.same_arr_iff, and_iff_right rfl,
          ← forall₂_same_iff (hgroup rfl hmembers) hothers]
        refine ⟨fun hsame => ?_, .any⟩
        cases hsame with
        | any hconditions => exact hconditions
      | path | compare | all =>
        refine iff_of_false nofun ?_
        simp [toDocument, pathDocument, Json.same_single_iff, (symbol_ne_group _).2.symm]

/-! ## Reading and writing -/

/-- The document of a condition that was read is the normal form of what it was read of, and is read
into the same condition again. Two documents are read into the same condition exactly when they have
the same normal form, whichever numbers count as the same. -/
theorem normal_of_ofDocument (h : ofDocument document = .ok condition) :
    condition.toDocument = normal document ∧ ofDocument condition.toDocument = .ok condition ∧
      ∀ document' condition', ofDocument document' = .ok condition' →
        (condition = condition' ↔ normal document = normal document') ∧
          ∀ sameNumber, condition.Same sameNumber condition' ↔
            (normal document).Same sameNumber (normal document') := by
  have hspells := spells_of_ofDocument h
  refine ⟨toDocument_eq_normal hspells, ofDocument_toDocument h, ?_⟩
  intro document' condition' h'
  have hspells' := spells_of_ofDocument h'
  rw [← toDocument_eq_normal hspells, ← toDocument_eq_normal hspells']
  refine ⟨⟨fun hsame => by rw [hsame], fun hsame => ?_⟩,
    fun _ => same_iff_same_toDocument hspells hspells'⟩
  have hread : ofDocument condition.toDocument = .ok condition' := by
    rw [hsame, ofDocument_toDocument h']
  exact Except.ok.inj ((ofDocument_toDocument h).symm.trans hread)

/-- A condition on tags and a flag, with both paths in lists and a literal that looks like one. -/
def taggedVip : Json := .obj [("and", .arr [
  .obj [("==", .arr [.obj [("var", .arr [.str "payload.tags"])],
    .arr [.obj [("var", .arr [.str "vip"])]]])],
  .obj [("var", .arr [.str "payload.vip"])]])]

theorem normal_of_ofDocument_taggedVip :
    let plain : Json := .obj [("and", .arr [
      .obj [("==", .arr [.obj [("var", .str "payload.tags")],
        .arr [.obj [("var", .arr [.str "vip"])]]])],
      .obj [("var", .str "payload.vip")]])]
    ∃ condition, ofDocument taggedVip = .ok condition ∧ condition.toDocument = plain ∧
      ofDocument plain = .ok condition := by
  obtain ⟨hdocument, hagain, -⟩ := @normal_of_ofDocument taggedVip _ rfl
  refine ⟨_, rfl, hdocument, ?_⟩
  rw [hdocument] at hagain
  exact hagain

end Condition

end Automation
