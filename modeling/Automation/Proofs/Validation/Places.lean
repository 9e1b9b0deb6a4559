import Automation.Event.Basic
import Automation.Proofs.Json.Finite
import Automation.Proofs.Validation.Field
import Automation.Sync.Plan

/-!
# Where issues lie

An issue with a document leads to the value that breaks its rule: the steps of its place go from the
document to the value, and the value is what the issue shows. A missing field is an issue of the
object that has no such member, and only those are missing. So what an issue shows is part of the
document, and it can go out if the document can.

## Main definitions

* `Validated.issues` — the issues that stand in the way of a value.
* `Validation.LeadsTo` — an issue leads from a document to the value that it shows.
* `Validation.Places` — all issues that a reader has with a document do.

## Main statements

* `Validation.LeadsTo.isSendable` — an issue of a document that can go out shows what can go out.
* `Validation.places_list`, `Validation.places_map`, `Validation.places_required`, … — the readers
  of values and of fields.
* `EventDraft.places`, `SyncRequest.places`, `ActionsRequest.places` — what requests submit.
-/

namespace Automation

variable {α β : Type}

namespace Validated

/-- The issues that stand in the way of a value. -/
def issues : Validated α → List Validation.Issue
  | .ok _ => []
  | .error issues => issues

@[simp] theorem issues_ok (a : α) : issues (.ok a) = [] := rfl

@[simp] theorem issues_error (all : List Validation.Issue) :
    issues (.error all : Validated α) = all :=
  rfl

@[simp] theorem issues_refuse (rule : Validation.Rule) (input : Json) :
    issues (refuse rule input : Validated α) = [⟨[], rule, input⟩] :=
  rfl

@[simp] theorem issues_map (f : α → β) (result : Validated α) :
    issues (result.map f) = result.issues := by
  cases result <;> rfl

@[simp] theorem issues_under (step : Validation.Step) (result : Validated α) :
    issues (result.under step) = result.issues.map (·.under step) := by
  cases result <;> rfl

@[simp] theorem issues_ap (function : Validated (α → β)) (argument : Validated α) :
    issues (function.ap argument) = function.issues ++ argument.issues := by
  rcases function with issues | f <;> rcases argument with more | a <;> simp [ap]

theorem issues_sequence (results : List (Validated α)) :
    issues (sequence results) = results.flatMap issues := by
  induction results with
  | nil => rfl
  | cons result rest ih => rw [sequence, issues_ap, issues_map, ih, List.flatMap_cons]

end Validated

namespace Validation

open Json (Members)
open Validated

/-! ## The way to a value -/

/-- The kinds that an identifier may be of. -/
def identifierKinds : List String := ["int", "str"]

/-- An issue leads from a value to the one that it shows. Where a value may be of two kinds, the kind
that an issue is about stands among its steps. -/
inductive LeadsTo : Json → Issue → Prop where
  | here {value : Json} {rule : Rule} (hrule : rule ≠ .missing) : LeadsTo value ⟨[], rule, value⟩
  | kind {value : Json} {name : String} {issue : Issue} (hname : name ∈ identifierKinds)
      (hissue : LeadsTo value issue) : LeadsTo value (issue.under (.field name))
  | missing {fields : Members} {name : String} (habsent : fields.lookup name = none) :
      LeadsTo (.obj fields) ⟨[.field name], .missing, .obj fields⟩
  | member {fields : Members} {name : String} {value : Json} {issue : Issue}
      (hmember : (name, value) ∈ fields) (hissue : LeadsTo value issue) :
      LeadsTo (.obj fields) (issue.under (.field name))
  | element {elems : List Json} {index : Nat} {value : Json} {issue : Issue}
      (helement : elems[index]? = some value) (hissue : LeadsTo value issue) :
      LeadsTo (.arr elems) (issue.under (.position index))

/-- What an issue shows can go out if its document can. -/
theorem LeadsTo.isSendable {document : Json} {issue : Issue} (h : LeadsTo document issue)
    (hdocument : document.isSendable = true) : issue.input.isSendable = true := by
  induction h with
  | here hrule => exact hdocument
  | kind _ _ ih => exact ih hdocument
  | missing habsent => exact hdocument
  | member hmember _ ih => exact ih (Json.isSendable_obj_iff.mp hdocument _ hmember).2
  | element helement _ ih =>
    exact ih (Json.isSendable_arr_iff.mp hdocument _ (List.mem_of_getElem? helement))

/-- All issues with a document lead to the values that they show. -/
def Places (document : Json) (result : Validated α) : Prop :=
  ∀ issue ∈ result.issues, LeadsTo document issue

variable {document value : Json} {fields : Members} {rule : Rule} {read : Json → Validated α}

/-! ## Values -/

theorem places_ok (a : α) : Places document (.ok a) := by
  intro issue hissue
  cases hissue

theorem places_refuse (hrule : rule ≠ .missing) :
    Places value (Validated.refuse rule value : Validated α) := by
  intro issue hissue
  obtain rfl := List.mem_singleton.mp hissue
  exact .here hrule

theorem Places.map {result : Validated α} (h : Places document result) (f : α → β) :
    Places document (Except.map f result) := by
  intro issue hissue
  rw [issues_map] at hissue
  exact h issue hissue

theorem Places.ap {function : Validated (α → β)} {argument : Validated α}
    (hfunction : Places document function) (hargument : Places document argument) :
    Places document (function.ap argument) := by
  intro issue hissue
  rw [issues_ap] at hissue
  rcases List.mem_append.mp hissue with hissue | hissue
  · exact hfunction issue hissue
  · exact hargument issue hissue

theorem places_anything (value : Json) : Places value (anything value) :=
  places_ok value

theorem places_text (value : Json) : Places value (text value) := by
  cases value with
  | str s => exact places_ok s
  | null | bool _ | num _ | arr _ | obj _ => exact places_refuse (by decide)

theorem places_nonEmptyText (value : Json) : Places value (nonEmptyText value) := by
  unfold nonEmptyText
  split
  next s htext =>
    split
    · exact places_refuse (by decide)
    · split
      · exact places_refuse (by decide)
      · exact places_ok s
  next issues htext =>
    have hplaces := places_text value
    rw [htext] at hplaces
    exact hplaces

theorem places_integerOfFloat (x : Binary64) : Places (.num (.float x)) (integerOfFloat x) := by
  unfold integerOfFloat
  split
  · exact places_refuse (by decide)
  · exact places_refuse (by decide)
  · split
    · exact places_refuse (by decide)
    · split
      · exact places_ok _
      · exact places_refuse (by decide)

theorem places_integerOfText (s : String) : Places (.str s) (integerOfText s) := by
  unfold integerOfText
  split
  · exact places_refuse (by decide)
  split
  · exact places_refuse (by decide)
  · dsimp only
    split
    · exact places_ok _
    · exact places_refuse (by decide)

theorem places_integer (value : Json) : Places value (integer value) := by
  rcases value with _ | b | (i | x) | s | elems | fields
  · exact places_refuse (by decide)
  · exact places_ok _
  · exact places_ok i
  · exact places_integerOfFloat x
  · exact places_integerOfText s
  · exact places_refuse (by decide)
  · exact places_refuse (by decide)

theorem places_integerAbove (bound : Int) (value : Json) :
    Places value (integerAbove bound value) := by
  unfold integerAbove
  split
  next i hread =>
    split
    · exact places_ok i
    · exact places_refuse (by decide)
  next issues hread =>
    have hplaces := places_integer value
    rw [hread] at hplaces
    exact hplaces

theorem places_timestamp (value : Json) : Places value (timestamp value) := by
  unfold timestamp
  split
  · exact places_ok _
  · exact places_refuse (by split <;> decide)
  all_goals exact places_refuse (by decide)

theorem places_members (value : Json) : Places value (members value) := by
  cases value with
  | obj fields => exact places_ok fields
  | null | bool _ | num _ | str _ | arr _ => exact places_refuse (by decide)

/-- `null` has no issues, and all other values have their own. -/
theorem places_nullable (hread : Places value (read value)) :
    Places value (nullable read value) := by
  unfold nullable
  split
  · exact places_ok none
  · exact hread.map some

/-- The issues with a list are those with its elements, each behind its position. -/
theorem places_list (hread : ∀ value, Places value (read value)) (value : Json) :
    Places value (list read value) := by
  cases value with
  | arr elems =>
    intro issue hissue
    rw [list, issues_sequence, List.mem_flatMap] at hissue
    obtain ⟨_, hresult, hissue⟩ := hissue
    obtain ⟨index, hindex, rfl⟩ := List.mem_mapIdx.mp hresult
    rw [issues_under, List.mem_map] at hissue
    obtain ⟨inner, hinner, rfl⟩ := hissue
    exact .element (List.getElem?_eq_getElem hindex) (hread _ inner hinner)
  | null | bool _ | num _ | str _ | obj _ => exact places_refuse (by decide)

/-- The issues with an object of values are those with the values, each behind its key. -/
theorem places_map (hread : ∀ value, Places value (read value)) (value : Json) :
    Places value (map read value) := by
  cases value with
  | obj fields =>
    intro issue hissue
    rw [Validation.map, issues_sequence, List.mem_flatMap] at hissue
    obtain ⟨_, hresult, hissue⟩ := hissue
    obtain ⟨⟨key, value⟩, hmember, rfl⟩ := List.mem_map.mp hresult
    rw [issues_map, issues_under, List.mem_map] at hissue
    obtain ⟨inner, hinner, rfl⟩ := hissue
    exact .member hmember (hread value inner hinner)
  | null | bool _ | num _ | str _ | arr _ => exact places_refuse (by decide)

/-! ## Fields -/

theorem mem_of_present? {names : List String} {name : String}
    (h : present? names fields = some (name, value)) : (name, value) ∈ fields := by
  obtain ⟨other, -, hother⟩ := List.exists_of_findSome?_eq_some h
  obtain ⟨_, hlookup, hsame⟩ := Option.map_eq_some_iff.mp hother
  obtain ⟨rfl, rfl⟩ := Prod.mk.inj hsame
  obtain ⟨before, after, rfl, -⟩ := List.lookup_eq_some_iff.mp hlookup
  exact List.mem_append_right before List.mem_cons_self

theorem places_member {name : String} {result : Validated α} (hmember : (name, value) ∈ fields)
    (hresult : Places value result) : Places (.obj fields) (result.under (.field name)) := by
  intro issue hissue
  rw [issues_under, List.mem_map] at hissue
  obtain ⟨inner, hinner, rfl⟩ := hissue
  exact .member hmember (hresult inner hinner)

theorem places_required (name : String) (others : List String)
    (hread : ∀ value, Places value (read value)) (fields : Members) :
    Places (.obj fields) (required (name :: others) read fields) := by
  unfold required
  split
  next used value hpresent => exact places_member (mem_of_present? hpresent) (hread value)
  next hpresent =>
    have habsent : fields.lookup name = none := by
      have hfirst := List.findSome?_eq_none_iff.mp hpresent name List.mem_cons_self
      exact Option.map_eq_none_iff.mp hfirst
    intro issue hissue
    obtain rfl := List.mem_singleton.mp hissue
    exact .missing habsent

theorem places_optional (names : List String) (default : α)
    (hread : ∀ value, Places value (read value)) (fields : Members) :
    Places (.obj fields) (optional names default read fields) := by
  unfold optional
  split
  next used value hpresent => exact places_member (mem_of_present? hpresent) (hread value)
  next hpresent => exact places_ok default

theorem places_record {read : Members → Validated α}
    (hread : ∀ fields, Places (.obj fields) (read fields)) (document : Json) :
    Places document (record document read) := by
  cases document with
  | obj fields => exact hread fields
  | null | bool _ | num _ | str _ | arr _ => exact places_refuse (by decide)

end Validation

open Validation

/-! ## What requests submit -/

/-- A value that is no identifier has an issue as an integer and one as a text. -/
theorem Identifier.places (value : Json) : Places value (ofJson value) := by
  unfold ofJson
  split
  · exact places_ok _
  · split
    · exact places_ok _
    next issues hread =>
      have hinteger := places_integer value
      rw [hread] at hinteger
      intro issue hissue
      rcases List.mem_append.mp hissue with hissue | hissue
      · obtain ⟨inner, hinner, rfl⟩ := List.mem_map.mp hissue
        exact .kind (by decide) (hinteger inner hinner)
      · obtain rfl := List.mem_singleton.mp hissue
        exact .kind (by decide) (.here (by decide))

theorem PersistKind.places (value : Json) : Places value (ofJson value) := by
  cases value with
  | str s =>
    rw [ofJson]
    split
    · exact places_ok _
    · exact places_refuse (by split <;> decide)
  | null | bool _ | num _ | arr _ | obj _ => exact places_refuse (by decide)

theorem PersistEntry.places (document : Json) : Places document (ofJson document) := by
  refine places_record (fun fields => .ap (.ap (places_ok _) ?_) ?_) document
  · exact places_required "kind" ["type"] PersistKind.places fields
  · exact places_optional ["value"] Json.null places_anything fields

theorem LabelDelta.places (document : Json) : Places document (ofJson document) := by
  refine places_record (fun fields => .ap (.ap (places_ok _) ?_) ?_) document
  · exact places_optional ["add"] [] (places_list places_text) fields
  · exact places_optional ["remove"] [] (places_list places_text) fields

theorem ExecutionPlan.places (document : Json) : Places document (ofJson document) := by
  refine places_record (fun fields => .ap (.ap (.ap (.ap (places_ok _) ?_) ?_) ?_) ?_) document
  · exact places_optional ["persist"] [] (places_map PersistEntry.places) fields
  · exact places_optional ["labels"] LabelDelta.none LabelDelta.places fields
  · exact places_optional ["contact_attributes"] [] places_members fields
  · exact places_optional ["emit_events"] [] (places_list places_text) fields

theorem Action.places (document : Json) : Places document (ofJson document) := by
  refine places_record (fun fields => .ap (.ap (places_ok _) ?_) ?_) document
  · exact places_required "type" [] places_text fields
  · exact places_optional ["params"] [] places_members fields

theorem EventDraft.places (document : Json) : Places document (ofJson document) := by
  refine places_record
    (fun fields => .ap (.ap (.ap (.ap (.ap (places_ok _) ?_) ?_) ?_) ?_) ?_) document
  · exact places_required "tenant_id" [] places_nonEmptyText fields
  · exact places_required "subject_id" ["contact_id"] Identifier.places fields
  · exact places_required "type" ["event_type"] places_nonEmptyText fields
  · exact places_optional ["payload"] [] places_members fields
  · exact places_optional ["timestamp"] none
      (fun value => places_nullable (places_timestamp value)) fields

theorem SyncRequest.places (document : Json) : Places document (ofJson document) := by
  refine places_record (fun fields => .ap (.ap (.ap (places_ok _) ?_) ?_) ?_) document
  · exact places_required "tenant_id" [] places_nonEmptyText fields
  · exact places_required "conversation_id" [] (places_integerAbove 0) fields
  · exact places_required "execution_plan" [] ExecutionPlan.places fields

theorem ActionsRequest.places (document : Json) : Places document (ofJson document) := by
  refine places_record (fun fields => .ap (.ap (.ap (places_ok _) ?_) ?_) ?_) document
  · exact places_required "tenant_id" [] places_nonEmptyText fields
  · exact places_required "conversation_id" [] (places_integerAbove 0) fields
  · exact places_optional ["actions"] [] (places_list Action.places) fields

end Automation
