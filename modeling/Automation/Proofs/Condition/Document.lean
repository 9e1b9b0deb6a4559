import Automation.Condition.Evaluation
import Automation.Condition.Parser
import Automation.Proofs.Json.Path
import Automation.Proofs.Validation.Field
import Mathlib.Data.List.Forall2

/-!
# What condition documents mean

A condition document can be read as it stands, without a tree in between: it is well-formed when
every part of it is, and it holds over a root by what its operators say. This file gives the two
readings and shows that reading a document into a condition and evaluating that condition comes to
the same.

## Main definitions

* `Json.at?` — the value that a path leads to.
* `ConditionDocument.WellFormed`, `ConditionDocument.Part` — the well-formed documents, and the
  parts that a document is made of.
* `ConditionDocument.Holds` — when a document holds over a root.
* `ConditionDocument.Mentions`, `ConditionDocument.Legible` — the paths that a document mentions,
  and documents whose paths have no positions of too many digits.

## Main statements

* `Condition.exists_ofDocument_iff` — exactly the well-formed documents spell conditions.
* `Condition.evaluate_iff_holds` — the condition of a document holds exactly when the document does.
-/

namespace Automation

/-! ## Paths -/

namespace Json

/-- The value that one part of a path selects: the member of that name, or the element at that
decimal position. -/
def child? (value : Json) (part : String) : Option Json :=
  match value with
  | .obj members => members.lookup part
  | .arr elems => (Path.position? part).bind fun digits => elems[Text.ofDigits digits]?
  | .null | .bool _ | .num _ | .str _ => none

/-- The value that a path leads to from a root, part by part. -/
def at? (root : Json) (path : String) : Option Json :=
  (Path.parts path).foldlM child? root

/-- A path whose parts of digits alone can be positions. -/
def Path.Legible (path : String) : Prop :=
  ∀ part ∈ Path.parts path, part.toList.all Char.isDigit = true →
    part.length ≤ Text.maxIntegerDigits

/-- A position has the digits of its part, which are all there is to the part. -/
theorem Path.of_position? {part : String} {digits : List Nat}
    (h : Path.position? part = some digits) :
    part.toList.all Char.isDigit = true ∧ digits.length = part.length := by
  obtain ⟨-, hdigits, rfl⟩ := Path.position?_eq_some_iff.mp h
  exact ⟨List.all_eq_true.mpr hdigits, by rw [List.length_map, String.length_toList]⟩

theorem step_eq_child? {part : String}
    (hpart : part.toList.all Char.isDigit = true → part.length ≤ Text.maxIntegerDigits)
    (value : Json) : value.step part = .ok (value.child? part) := by
  cases value with
  | arr elems =>
    simp only [step, child?]
    cases hposition : Path.position? part with
    | none => rfl
    | some digits =>
      obtain ⟨hdigits, hlength⟩ := Path.of_position? hposition
      have hshort : ¬ Text.maxIntegerDigits < digits.length := by
        have := hpart hdigits
        omega
      simp [hshort]
  | null | bool _ | num _ | str _ | obj _ => rfl

theorem resolve_eq_at? {path : String} (h : Path.Legible path) (root : Json) :
    resolve path root = .ok (root.at? path) := by
  have hwalk : ∀ (parts : List String) (root : Json),
      (∀ part ∈ parts, part.toList.all Char.isDigit = true →
        part.length ≤ Text.maxIntegerDigits) →
      walk root parts = .ok (parts.foldlM child? root) := by
    intro parts
    induction parts with
    | nil => exact fun _ _ => rfl
    | cons part rest ih =>
      intro root hparts
      rw [walk, step_eq_child? (hparts part (by simp)), List.foldlM_cons]
      cases root.child? part with
      | none => rfl
      | some next => exact ih next fun p hp => hparts p (List.mem_cons_of_mem _ hp)
  exact hwalk _ root h

end Json

/-! ## Reading documents as they stand -/

namespace ConditionDocument

/-- The text of a path, which stands on its own or as the only element of a list. -/
def pathText? : Json → Option String
  | .str path => some path
  | .arr [.str path] => some path
  | _ => none

/-- A value that can be compared: a path document, or anything that is no object. -/
def WellFormedOperand : Json → Prop
  | .obj [("var", args)] => (pathText? args).isSome = true
  | .obj _ => False
  | _ => True

/-- A document that spells a condition, with all of its parts. -/
inductive WellFormed : Json → Prop
  | path {args : Json} (h : (pathText? args).isSome = true) : WellFormed (.obj [("var", args)])
  | comparison {operator : String} {left right : Json}
      (known : operator = "==" ∨ operator = ">=" ∨ operator = "<=")
      (hleft : WellFormedOperand left) (hright : WellFormedOperand right) :
      WellFormed (.obj [(operator, .arr [left, right])])
  | group {operator : String} {documents : List Json} (known : operator = "and" ∨ operator = "or")
      (h : ∀ document ∈ documents, WellFormed document) :
      WellFormed (.obj [(operator, .arr documents)])

/-- A part of a document: the document itself, or a part of a member of its group. -/
inductive Part (part : Json) : Json → Prop
  | self : Part part part
  | inside {operator : String} {documents : List Json} {document : Json}
      (known : operator = "and" ∨ operator = "or") (member : document ∈ documents)
      (h : Part part document) : Part part (.obj [(operator, .arr documents)])

/-- The value that an operand stands for: the one that its path leads to, or the operand itself. -/
def operandValue? (root : Json) : Json → Option Json
  | .obj [("var", args)] => (pathText? args).bind root.at?
  | literal => some literal

/-- When a document holds over a root. A path that leads nowhere equals another such path and
nothing else, and only numbers are ordered. -/
inductive Holds (root : Json) : Json → Prop
  | path {args value : Json} {path : String} (hpath : pathText? args = some path)
      (hvalue : root.at? path = some value) (h : value.isTruthy = true) :
      Holds root (.obj [("var", args)])
  | equal {left right l r : Json} (hleft : operandValue? root left = some l)
      (hright : operandValue? root right = some r) (h : l.looselyEq r = true) :
      Holds root (.obj [("==", .arr [left, right])])
  | bothAbsent {left right : Json} (hleft : operandValue? root left = none)
      (hright : operandValue? root right = none) : Holds root (.obj [("==", .arr [left, right])])
  | atLeast {left right : Json} {m n : Number} (hleft : operandValue? root left = some (.num m))
      (hright : operandValue? root right = some (.num n)) (h : n.le m = true) :
      Holds root (.obj [(">=", .arr [left, right])])
  | atMost {left right : Json} {m n : Number} (hleft : operandValue? root left = some (.num m))
      (hright : operandValue? root right = some (.num n)) (h : m.le n = true) :
      Holds root (.obj [("<=", .arr [left, right])])
  | all {documents : List Json} (h : ∀ document ∈ documents, Holds root document) :
      Holds root (.obj [("and", .arr documents)])
  | any {documents : List Json} {document : Json} (member : document ∈ documents)
      (h : Holds root document) : Holds root (.obj [("or", .arr documents)])

/-- A document mentions a path, at whatever depth. -/
inductive Mentions (path : String) : Json → Prop
  | here {args : Json} (h : pathText? args = some path) : Mentions path (.obj [("var", args)])
  | inside {operator : String} {documents : List Json} {document : Json}
      (member : document ∈ documents) (h : Mentions path document) :
      Mentions path (.obj [(operator, .arr documents)])

/-- A document all of whose paths are legible. -/
def Legible (document : Json) : Prop := ∀ path, Mentions path document → Json.Path.Legible path

theorem Legible.member {operator : String} {documents : List Json}
    (h : Legible (.obj [(operator, .arr documents)])) {document : Json}
    (hmem : document ∈ documents) : Legible document :=
  fun path hpath => h path (.inside hmem hpath)

theorem legible_group_iff {operator : String} {documents : List Json} :
    Legible (.obj [(operator, .arr documents)]) ↔
      (operator = "var" → ∀ path ∈ pathText? (.arr documents), Json.Path.Legible path) ∧
        ∀ document ∈ documents, Legible document := by
  constructor
  · intro h
    refine ⟨?_, fun _ => h.member⟩
    rintro rfl path hpath
    exact h path (.here hpath)
  · rintro ⟨htext, hmembers⟩ path hpath
    cases hpath with
    | here hhere => exact htext rfl path hhere
    | inside hmember hinside => exact hmembers _ hmember path hinside

theorem legible_path {path : String} (h : Json.Path.Legible path) :
    Legible (.obj [("var", .str path)]) := by
  intro path' hpath
  cases hpath with
  | here hhere =>
    obtain rfl : path = path' := by simpa [pathText?] using hhere
    exact h

theorem legible_literal {document : Json} (h : ∀ members, document ≠ .obj members) :
    Legible document := by
  intro path hpath
  cases hpath with
  | here | inside => exact absurd rfl (h _)

theorem WellFormed.member {operator : String} {documents : List Json}
    (known : operator = "and" ∨ operator = "or")
    (h : WellFormed (.obj [(operator, .arr documents)])) {document : Json}
    (hmem : document ∈ documents) : WellFormed document := by
  generalize hshape : Json.obj [(operator, .arr documents)] = whole at h
  cases h with
  | path => rcases known with rfl | rfl <;> simp at hshape
  | comparison known' =>
    have hoperator : operator = _ := (Prod.mk.inj (List.cons.inj (Json.obj.inj hshape)).1).1
    rcases known with rfl | rfl <;> simp [← hoperator] at known'
  | group _ hmembers =>
    obtain ⟨-, rfl⟩ : _ ∧ documents = _ := by simpa using hshape
    exact hmembers document hmem

/-- A document is well-formed only if all of its parts are. -/
theorem WellFormed.of_part {part document : Json} (hpart : Part part document)
    (h : WellFormed document) : WellFormed part := by
  induction hpart with
  | self => exact h
  | inside known member _ ih => exact ih (h.member known member)

theorem holds_path_iff {root args : Json} : Holds root (.obj [("var", args)]) ↔
    ∃ path value, pathText? args = some path ∧ root.at? path = some value ∧
      value.isTruthy = true := by
  constructor
  · intro h
    generalize hshape : Json.obj [("var", args)] = document at h
    cases h with
    | path hpath hvalue h =>
      obtain rfl : args = _ := by simpa using hshape
      exact ⟨_, _, hpath, hvalue, h⟩
    | equal | bothAbsent | atLeast | atMost | all | any => simp at hshape
  · rintro ⟨path, value, hpath, hvalue, h⟩
    exact .path hpath hvalue h

theorem numbers?_eq_some_iff {left right : Option Json} {m n : Number} :
    numbers? left right = some (m, n) ↔ left = some (.num m) ∧ right = some (.num n) := by
  rcases left with _ | (_ | _ | _ | _ | _ | _) <;> rcases right with _ | (_ | _ | _ | _ | _ | _) <;>
    simp [numbers?, Json.number?]

/-- Comparisons are read as they are made. -/
theorem holds_comparison_iff {root left right : Json} (comparison : Comparison) :
    Holds root (.obj [(comparison.symbol, .arr [left, right])]) ↔
      comparison.holds (operandValue? root left) (operandValue? root right) = true := by
  constructor
  · intro h
    generalize hshape : Json.obj [(comparison.symbol, .arr [left, right])] = document at h
    cases comparison <;> cases h <;> simp [Comparison.symbol] at hshape <;>
      obtain ⟨rfl, rfl⟩ := hshape <;>
        simp_all [Comparison.holds, equalValues, numbers?, Json.number?]
  · intro h
    cases comparison with
    | equal =>
      cases hleft : operandValue? root left <;> cases hright : operandValue? root right <;>
        simp only [Comparison.holds, equalValues, hleft, hright, Bool.false_eq_true] at h
      · exact .bothAbsent hleft hright
      · exact .equal hleft hright h
    | atLeast =>
      simp only [Comparison.holds] at h
      split at h
      next m n hnumbers =>
        obtain ⟨hleft, hright⟩ := numbers?_eq_some_iff.mp hnumbers
        exact .atLeast hleft hright h
      · cases h
    | atMost =>
      simp only [Comparison.holds] at h
      split at h
      next m n hnumbers =>
        obtain ⟨hleft, hright⟩ := numbers?_eq_some_iff.mp hnumbers
        exact .atMost hleft hright h
      · cases h

theorem holds_all_iff {root : Json} {documents : List Json} :
    Holds root (.obj [("and", .arr documents)]) ↔ ∀ d ∈ documents, Holds root d := by
  refine ⟨fun h => ?_, .all⟩
  generalize hshape : Json.obj [("and", .arr documents)] = document at h
  cases h with
  | all h =>
    obtain rfl : documents = _ := by simpa using hshape
    exact h
  | path | equal | bothAbsent | atLeast | atMost | any => simp at hshape

theorem holds_any_iff {root : Json} {documents : List Json} :
    Holds root (.obj [("or", .arr documents)]) ↔ ∃ d ∈ documents, Holds root d := by
  refine ⟨fun h => ?_, fun ⟨d, hd, h⟩ => .any hd h⟩
  generalize hshape : Json.obj [("or", .arr documents)] = document at h
  cases h with
  | any member h =>
    obtain rfl : documents = _ := by simpa using hshape
    exact ⟨_, member, h⟩
  | path | equal | bothAbsent | atLeast | atMost | all => simp at hshape

/-- Induction on a document by way of the members of its group. -/
theorem induction {P : Json → Prop} (h : ∀ document, (∀ operator documents,
    document = .obj [(operator, .arr documents)] → ∀ member ∈ documents, P member) → P document)
    (document : Json) : P document :=
  h document fun _ _ _ member _ => induction h member
termination_by sizeOf document
decreasing_by
  rename_i operator documents hshape hmem
  have hlt := List.sizeOf_lt_of_mem hmem
  simp only [hshape, Json.obj.sizeOf_spec, Json.arr.sizeOf_spec, List.cons.sizeOf_spec,
    Prod.mk.sizeOf_spec]
  omega

end ConditionDocument

/-! ## Reading documents into conditions -/

namespace Condition

open ConditionDocument

variable {root document args value : Json} {documents : List Json} {condition : Condition}
  {conditions : List Condition} {operand : Operand}

theorem readPath_eq_ok_iff {path : String} :
    readPath args document = .ok path ↔ pathText? args = some path := by
  unfold readPath pathText?
  split <;> simp

theorem exists_readOperand_iff (document : Json) :
    (∃ operand, readOperand (fun _ => none) value document = .ok operand) ↔
      WellFormedOperand value := by
  unfold WellFormedOperand
  split
  next args =>
    simp only [readOperand, Option.isSome_iff_exists, ← @readPath_eq_ok_iff document]
    cases readPath args document <;> simp [Except.map]
  next members hmembers =>
    simp [readOperand]
  next hpath hobject =>
    simp [readOperand]

/-- What a document looks like that spells a condition. -/
inductive Spelling : Json → Condition → Prop
  | truthy {args : Json} {path : String} (hpath : pathText? args = some path) :
      Spelling (.obj [("var", args)]) (.truthy path)
  | compare (comparison : Comparison) {left right whole : Json} {l r : Operand}
      (hleft : readOperand (fun _ => none) left whole = .ok l)
      (hright : readOperand (fun _ => none) right whole = .ok r) :
      Spelling (.obj [(comparison.symbol, .arr [left, right])]) (.compare comparison l r)
  | all {documents : List Json} {conditions : List Condition}
      (h : List.Forall₂ (fun d c => ofDocument d = .ok c) documents conditions) :
      Spelling (.obj [("and", .arr documents)]) (.all conditions)
  | any {documents : List Json} {conditions : List Condition}
      (h : List.Forall₂ (fun d c => ofDocument d = .ok c) documents conditions) :
      Spelling (.obj [("or", .arr documents)]) (.any conditions)

theorem ofDocumentsWith_eq_ok_iff :
    ofDocumentsWith (fun _ => none) documents = .ok conditions ↔
      List.Forall₂ (fun d c => ofDocument d = .ok c) documents conditions := by
  induction documents generalizing conditions with
  | nil => cases conditions <;> simp [ofDocumentsWith]
  | cons document rest ih =>
    cases conditions with
    | nil =>
      simp only [ofDocumentsWith]
      split
      · simp
      · split <;> simp
    | cons condition others =>
      rw [List.forall₂_cons, ← ih]
      simp only [ofDocumentsWith, ofDocument]
      split
      next fault h => simp [h]
      next condition' h =>
        split <;> simp_all

theorem symbol_of_ofSymbol? {operator : String} {comparison : Comparison}
    (h : Comparison.ofSymbol? operator = some comparison) : comparison.symbol = operator := by
  simpa using List.find?_some h

theorem spelling_of_readComparison {comparison : Comparison}
    (h : readComparison (fun _ => none) comparison args document = .ok condition) :
    Spelling (.obj [(comparison.symbol, args)]) condition := by
  unfold readComparison at h
  split at h
  next left right =>
    simp only [bind, Except.bind] at h
    split at h
    · cases h
    next l hleft =>
      split at h
      · cases h
      next r hright =>
        cases h
        exact .compare comparison hleft hright
  · cases h

/-- A document that is read into a condition is one of the spellings. -/
theorem spelling_of_ofDocument (h : ofDocument document = .ok condition) :
    Spelling document condition := by
  unfold ofDocument ofDocumentWith at h
  split at h
  next operator args =>
    split at h
    next hvar =>
      subst hvar
      obtain ⟨path, hpath, rfl⟩ := map_eq_ok_iff.mp h
      exact .truthy (readPath_eq_ok_iff.mp hpath)
    split at h
    next comparison hsymbol =>
      rw [← symbol_of_ofSymbol? hsymbol]
      exact spelling_of_readComparison h
    split at h
    next hand =>
      subst hand
      split at h
      · obtain ⟨conditions, hconditions, rfl⟩ := map_eq_ok_iff.mp h
        exact .all (ofDocumentsWith_eq_ok_iff.mp hconditions)
      · cases h
    split at h
    next hor =>
      subst hor
      split at h
      · obtain ⟨conditions, hconditions, rfl⟩ := map_eq_ok_iff.mp h
        exact .any (ofDocumentsWith_eq_ok_iff.mp hconditions)
      · cases h
    · cases h
  · cases h
  · cases h

/-- A group is read member by member. -/
theorem exists_ofDocuments (h : ∀ d ∈ documents, ∃ c, ofDocument d = .ok c) :
    ∃ conditions, ofDocumentsWith (fun _ => none) documents = .ok conditions := by
  simp only [ofDocumentsWith_eq_ok_iff]
  induction documents with
  | nil => exact ⟨[], .nil⟩
  | cons document rest ih =>
    obtain ⟨condition, hcondition⟩ := h document (by simp)
    obtain ⟨conditions, hconditions⟩ := ih fun d hd => h d (by simp [hd])
    exact ⟨condition :: conditions, .cons hcondition hconditions⟩

theorem exists_ofDocument_of_wellFormed (h : WellFormed document) :
    ∃ condition, ofDocument document = .ok condition := by
  induction h with
  | @path args hpath =>
    obtain ⟨path, hpath⟩ := Option.isSome_iff_exists.mp hpath
    exact ⟨.truthy path, map_eq_ok_iff.mpr ⟨path, readPath_eq_ok_iff.mpr hpath, rfl⟩⟩
  | @comparison operator left right known hleft hright =>
    let whole := Json.obj [(operator, .arr [left, right])]
    obtain ⟨l, hl⟩ := (exists_readOperand_iff whole).mpr hleft
    obtain ⟨r, hr⟩ := (exists_readOperand_iff whole).mpr hright
    have hread : ∀ comparison,
        readComparison (fun _ => none) comparison (.arr [left, right]) whole =
          .ok (.compare comparison l r) := by
      intro comparison
      simp [readComparison, bind, Except.bind, hl, hr]
    rcases known with rfl | rfl | rfl
    · exact ⟨_, hread .equal⟩
    · exact ⟨_, hread .atLeast⟩
    · exact ⟨_, hread .atMost⟩
  | group known _ ih =>
    obtain ⟨conditions, hconditions⟩ := exists_ofDocuments ih
    rcases known with rfl | rfl
    · exact ⟨.all conditions, map_eq_ok_iff.mpr ⟨_, hconditions, rfl⟩⟩
    · exact ⟨.any conditions, map_eq_ok_iff.mpr ⟨_, hconditions, rfl⟩⟩

/-- What follows for the members of a list one by one. -/
theorem forall₂_of_mem {α β : Type} {R S : α → β → Prop} {l : List α} {m : List β}
    (h : List.Forall₂ R l m) (hRS : ∀ a ∈ l, ∀ b, R a b → S a b) : List.Forall₂ S l m :=
  ((List.forall₂_and_left _ _).mpr ⟨hRS, h⟩).imp fun _ b hab => hab.1 b hab.2

theorem wellFormed_of_ofDocument (h : ofDocument document = .ok condition) :
    WellFormed document := by
  induction document using ConditionDocument.induction generalizing condition with
  | _ document ih =>
    have hgroup : ∀ {operator documents conditions},
        document = .obj [(operator, .arr documents)] →
        List.Forall₂ (fun d c => ofDocument d = .ok c) documents conditions →
        ∀ d ∈ documents, WellFormed d := by
      intro operator documents conditions hshape hmembers
      exact ((List.forall₂_and_left _ _).mp (forall₂_of_mem hmembers fun d hd c hc =>
        ⟨ih operator documents hshape d hd hc, hc⟩)).1
    cases spelling_of_ofDocument h with
    | truthy hpath => exact .path (by simp [hpath])
    | compare comparison hleft hright =>
      refine .comparison ?_ ((exists_readOperand_iff _).mp ⟨_, hleft⟩)
        ((exists_readOperand_iff _).mp ⟨_, hright⟩)
      cases comparison <;> simp [Comparison.symbol]
    | all hmembers => exact .group (.inl rfl) (hgroup rfl hmembers)
    | any hmembers => exact .group (.inr rfl) (hgroup rfl hmembers)

/-- Exactly the well-formed documents spell conditions. -/
theorem exists_ofDocument_iff :
    (∃ condition, ofDocument document = .ok condition) ↔ WellFormed document :=
  ⟨fun ⟨_, h⟩ => wellFormed_of_ofDocument h, exists_ofDocument_of_wellFormed⟩

/-! ## Evaluating the condition of a document -/

theorem value?_of_readOperand (h : readOperand (fun _ => none) value document = .ok operand)
    (hlegible : Legible value) (root : Json) :
    operand.value? root = .ok (operandValue? root value) := by
  simp only [readOperand] at h
  split at h
  next args =>
    obtain ⟨path, hpath, rfl⟩ := map_eq_ok_iff.mp h
    rw [readPath_eq_ok_iff] at hpath
    simp [Operand.value?, operandValue?, hpath, Json.resolve_eq_at? (hlegible path (.here hpath))]
  · cases h
  next hpath hobject =>
    cases h
    simp [Operand.value?, operandValue?]

theorem exists_checkAll
    (h : List.Forall₂ (fun d c => ∃ b, check root c = .ok b ∧ (b = true ↔ Holds root d))
      documents conditions) :
    ∃ b, checkAll root conditions = .ok b ∧ (b = true ↔ ∀ d ∈ documents, Holds root d) := by
  induction h with
  | nil => exact ⟨true, rfl, by simp⟩
  | cons hfirst _ ih =>
    obtain ⟨b, hb, hholds⟩ := hfirst
    obtain ⟨others, hothers, hrest⟩ := ih
    cases b with
    | true => exact ⟨others, by simp [checkAll, hb, hothers], by simp [hrest, ← hholds]⟩
    | false => exact ⟨false, by simp [checkAll, hb], by simp [← hholds]⟩

theorem exists_checkAny
    (h : List.Forall₂ (fun d c => ∃ b, check root c = .ok b ∧ (b = true ↔ Holds root d))
      documents conditions) :
    ∃ b, checkAny root conditions = .ok b ∧ (b = true ↔ ∃ d ∈ documents, Holds root d) := by
  induction h with
  | nil => exact ⟨false, rfl, by simp⟩
  | cons hfirst _ ih =>
    obtain ⟨b, hb, hholds⟩ := hfirst
    obtain ⟨others, hothers, hrest⟩ := ih
    cases b with
    | true => exact ⟨true, by simp [checkAny, hb], by simp [← hholds]⟩
    | false => exact ⟨others, by simp [checkAny, hb, hothers], by simp [hrest, ← hholds]⟩

/-- The condition of a document can be evaluated, and its value is what the document says. -/
theorem exists_check_of_ofDocument (h : ofDocument document = .ok condition)
    (hlegible : Legible document) (root : Json) :
    ∃ b, condition.check root = .ok b ∧ (b = true ↔ Holds root document) := by
  induction document using ConditionDocument.induction generalizing condition with
  | _ document ih =>
    have hgroup : ∀ {operator documents conditions},
        document = .obj [(operator, .arr documents)] →
        List.Forall₂ (fun d c => ofDocument d = .ok c) documents conditions →
        List.Forall₂ (fun d c => ∃ b, check root c = .ok b ∧ (b = true ↔ Holds root d))
          documents conditions := by
      rintro operator documents conditions rfl hmembers
      exact forall₂_of_mem hmembers fun d hd c hc =>
        ih operator documents rfl d hd hc (hlegible.member hd)
    cases spelling_of_ofDocument h with
    | @truthy args path hpath =>
      have hresolve := Json.resolve_eq_at? (hlegible path (.here hpath)) root
      simp only [check, hresolve, holds_path_iff, hpath]
      cases hvalue : root.at? path <;> simp [hvalue]
    | @compare comparison left right whole l r hleft hright =>
      refine ⟨_, ?_, (holds_comparison_iff comparison).symm⟩
      simp only [check, value?_of_readOperand hleft (hlegible.member (by simp)),
        value?_of_readOperand hright (hlegible.member (by simp))]
    | all hmembers =>
      simp only [check, holds_all_iff]
      exact exists_checkAll (hgroup rfl hmembers)
    | any hmembers =>
      simp only [check, holds_any_iff]
      exact exists_checkAny (hgroup rfl hmembers)

/-- The condition of a document holds exactly when the document does. -/
theorem evaluate_iff_holds (h : ofDocument document = .ok condition)
    (hlegible : Legible document) (root : Json) :
    condition.evaluate root = true ↔ Holds root document := by
  obtain ⟨b, hb, hholds⟩ := exists_check_of_ofDocument h hlegible root
  rw [evaluate, hb, hholds]

end Condition

end Automation
