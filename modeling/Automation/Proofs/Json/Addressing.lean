import Automation.Proofs.Condition.Document

/-!
# What paths lead to

A path leads to the value that its parts select, one after the other: a member by its key, an element
by its position in decimal. Where a part selects nothing, the whole path leads nowhere. So a path can
be cut at any of its dots, and every value inside another one is found under the path that is spelled
by the keys and positions on the way to it, as long as no key has a dot of its own.

## Main definitions

* `Json.Selects`, `Json.Leads` — what a part selects, and what parts lead to.
* `Json.Path.Short` — a path whose parts have no more characters than an integer may have digits.
* `Json.Branch`, `Json.Inside` — keys and positions, and the values inside a value.

## Main statements

* `Json.child?_eq_some_iff`, `Json.at?_eq_some_iff` — what is found is what is selected.
* `Json.resolve_append` — a path that is cut at a dot.
* `Json.walk_of_inside` — the keys and positions on the way to a value lead to it.
* `Json.resolve_addresses` — all of it for paths as texts.
-/

namespace Automation.Json

/-- A part selects a value inside another one: the member under that very key, or the element at the
position that its decimal digits spell, zeros in front or not. -/
inductive Selects (part : String) : Json → Json → Prop
  | member {members : Members} {value : Json} (h : members.lookup part = some value) :
      Selects part (.obj members) value
  | element {elems : List Json} {value : Json} (hne : part.toList ≠ [])
      (hdigits : ∀ c ∈ part.toList, c.isDigit = true)
      (h : elems[Nat.ofDigitChars 10 part.toList 0]? = some value) :
      Selects part (.arr elems) value

/-- The parts of a path lead from a value to another one. -/
inductive Leads : List String → Json → Json → Prop
  | here (value : Json) : Leads [] value value
  | onward {part : String} {rest : List String} {current next value : Json}
      (hstep : Selects part current next) (hrest : Leads rest next value) :
      Leads (part :: rest) current value

/-- No part of a path has more characters than an integer may have digits. -/
def Path.Short (path : String) : Prop :=
  ∀ part ∈ Path.parts path, part.length ≤ Text.maxIntegerDigits

/-- What leads from a value to one inside it: the key of a member or the position of an element. -/
inductive Branch where
  | key (name : String)
  | position (index : Nat)
  deriving DecidableEq, Repr

/-- The part of a path that spells a key or a position. -/
def Branch.text : Branch → String
  | .key name => name
  | .position index => toString index

/-- A branch can be a part of a path: a key has no dot, and a position has no more digits than an
integer may have. -/
def Branch.IsPart : Branch → Prop
  | .key name => '.' ∉ name.toList
  | .position index => (toString index).length ≤ Text.maxIntegerDigits

instance : DecidablePred Branch.IsPart
  | .key name => inferInstanceAs (Decidable ('.' ∉ name.toList))
  | .position index => inferInstanceAs (Decidable ((toString index).length ≤ Text.maxIntegerDigits))

/-- A value lies inside another one, behind keys and positions. -/
inductive Inside (value : Json) : List Branch → Json → Prop
  | here : Inside value [] value
  | member {name : String} {rest : List Branch} {members : Members} {next : Json}
      (h : members.lookup name = some next) (hrest : Inside value rest next) :
      Inside value (.key name :: rest) (.obj members)
  | element {index : Nat} {rest : List Branch} {elems : List Json} {next : Json}
      (h : elems[index]? = some next) (hrest : Inside value rest next) :
      Inside value (.position index :: rest) (.arr elems)

variable {root current value : Json} {part path : String} {parts : List String}
  {branches : List Branch}

/-! ## Parts in turn -/

/-- The number that digits spell is the same for characters and for their values. -/
theorem ofDigits_map (cs : List Char) :
    Text.ofDigits (cs.map fun c => c.toNat - '0'.toNat) = Nat.ofDigitChars 10 cs 0 := by
  rw [Text.ofDigits, List.foldl_map, Nat.ofDigitChars]

theorem child?_eq_some_iff : current.child? part = some value ↔ Selects part current value := by
  constructor
  · intro h
    cases current with
    | obj members => exact .member h
    | arr elems =>
      obtain ⟨digits, hposition, helem⟩ := Option.bind_eq_some_iff.mp h
      obtain ⟨hne, hdigits, rfl⟩ := Path.position?_eq_some_iff.mp hposition
      exact .element hne hdigits (ofDigits_map part.toList ▸ helem)
    | null | bool _ | num _ | str _ => cases h
  · intro h
    cases h with
    | member h => exact h
    | element hne hdigits h =>
      have hposition := Path.position?_eq_some_iff.mpr ⟨hne, hdigits, rfl⟩
      rw [child?, hposition, Option.bind_some, ofDigits_map, h]

theorem foldlM_child?_eq_some_iff :
    parts.foldlM child? root = some value ↔ Leads parts root value := by
  induction parts generalizing root with
  | nil =>
    constructor
    · rintro ⟨⟩
      exact .here value
    · rintro ⟨⟩
      rfl
  | cons part rest ih =>
    simp only [List.foldlM_cons, Option.bind_eq_bind, Option.bind_eq_some_iff, child?_eq_some_iff,
      ih]
    constructor
    · rintro ⟨next, hstep, hrest⟩
      exact .onward hstep hrest
    · rintro (_ | ⟨hstep, hrest⟩)
      exact ⟨_, hstep, hrest⟩

theorem at?_eq_some_iff : root.at? path = some value ↔ Leads (Path.parts path) root value :=
  foldlM_child?_eq_some_iff

theorem resolve_of_short (h : Path.Short path) (root : Json) :
    resolve path root = .ok (root.at? path) :=
  resolve_eq_at? (fun part hpart _ => h part hpart) root

/-! ## Paths in pieces -/

theorem walk_append (parts others : List String) (root : Json) :
    walk root (parts ++ others) =
      match walk root parts with
      | .ok (some value) => walk value others
      | .ok none => .ok none
      | .error fault => .error fault := by
  induction parts generalizing root with
  | nil => rfl
  | cons part rest ih =>
    rw [List.cons_append, walk, walk]
    cases root.step part with
    | error fault => rfl
    | ok next? =>
      cases next? with
      | none => rfl
      | some next => exact ih next

/-- A path that goes on behind a dot leads from where its front leads to; it leads nowhere when its
front does, and meets the fault that its front meets. -/
theorem resolve_append (front back : String) (root : Json) :
    resolve (front ++ "." ++ back) root =
      match resolve front root with
      | .ok (some value) => resolve back value
      | .ok none => .ok none
      | .error fault => .error fault := by
  rw [resolve, parts_append, walk_append]
  rfl

/-! ## Values inside values -/

/-- The part that spells a position selects the element there. -/
theorem selects_position {index : Nat} {elems : List Json} (h : elems[index]? = some value) :
    Selects (toString index) (.arr elems) value := by
  have htext : (toString index).toList = Nat.toDigits 10 index := Nat.toList_repr
  refine .element ?_ (fun c hc => ?_) ?_
  · rw [htext]
    exact Nat.toDigits_ne_nil
  · rw [htext] at hc
    exact Nat.isDigit_of_mem_toDigits (by decide) (by decide) hc
  · rw [htext, Nat.ofDigitChars_ten_toDigits, h]

theorem walk_of_inside (h : Inside value branches root) (hparts : ∀ b ∈ branches, b.IsPart) :
    walk root (branches.map Branch.text) = .ok (some value) := by
  induction h with
  | here => rfl
  | @member name rest members next hnext hrest ih =>
    have hstep : (Json.obj members).step name = .ok (some next) := congrArg Except.ok hnext
    rw [List.map_cons, Branch.text, walk, hstep]
    exact ih fun b hb => hparts b (List.mem_cons_of_mem _ hb)
  | @element index rest elems next hnext hrest ih =>
    have hshort : (Branch.position index).IsPart := hparts _ List.mem_cons_self
    have hstep : (Json.arr elems).step (toString index) = .ok (some next) := by
      rw [step_eq_child? (fun _ => hshort), child?_eq_some_iff.mpr (selects_position hnext)]
    rw [List.map_cons, Branch.text, walk, hstep]
    exact ih fun b hb => hparts b (List.mem_cons_of_mem _ hb)

theorem Branch.no_dot {branch : Branch} (h : branch.IsPart) : '.' ∉ branch.text.toList := by
  cases branch with
  | key name => exact h
  | position index =>
    intro hdot
    have hdot : '.' ∈ Nat.toDigits 10 index := by simpa [Branch.text] using hdot
    exact absurd (Nat.isDigit_of_mem_toDigits (by decide) (by decide) hdot) (by decide)

/-- Parts lead to the value that they select in turn, and nowhere when one of them selects nothing.
A path that is cut at a dot leads where its back leads to from where its front leads to. A value
inside another one is found under the keys and positions on the way to it. -/
theorem resolve_addresses (root : Json) :
    (∀ parts : List String, parts ≠ [] →
      (∀ part ∈ parts, '.' ∉ part.toList ∧ part.length ≤ Text.maxIntegerDigits) →
        (∀ value, resolve (".".intercalate parts) root = .ok (some value) ↔
          Leads parts root value) ∧
        (resolve (".".intercalate parts) root = .ok none ↔ ∀ value, ¬ Leads parts root value)) ∧
      (∀ front back : String, resolve (front ++ "." ++ back) root =
        match resolve front root with
        | .ok (some value) => resolve back value
        | .ok none => .ok none
        | .error fault => .error fault) ∧
      (∀ path, Path.Short path → ∃ value?, resolve path root = .ok value?) ∧
      ∀ (branches : List Branch) (value : Json), branches ≠ [] → Inside value branches root →
        (∀ b ∈ branches, b.IsPart) →
          resolve (".".intercalate (branches.map Branch.text)) root = .ok (some value) := by
  refine ⟨fun parts hne hparts => ?_, fun front back => resolve_append front back root,
    fun path hshort => ⟨_, resolve_of_short hshort root⟩, fun branches value hne h hparts => ?_⟩
  · have hcome := parts_intercalate hne fun part hpart => (hparts part hpart).1
    have hshort : Path.Short (".".intercalate parts) := by
      rw [Path.Short, hcome]
      exact fun part hpart => (hparts part hpart).2
    rw [resolve_of_short hshort]
    refine ⟨fun value => ?_, ?_⟩
    · rw [Except.ok.injEq, at?_eq_some_iff, hcome]
    · simp [Option.eq_none_iff_forall_ne_some, at?_eq_some_iff, hcome]
  · have hcome : Path.parts (".".intercalate (branches.map Branch.text)) =
        branches.map Branch.text := by
      refine parts_intercalate (by simpa using hne) fun part hpart => ?_
      obtain ⟨branch, hbranch, rfl⟩ := List.mem_map.mp hpart
      exact Branch.no_dot (hparts branch hbranch)
    rw [resolve, hcome]
    exact walk_of_inside h hparts

/-- Two articles on a list, and a key of digits beside it. -/
def catalogue : Json := .obj [
  ("items", .arr [.obj [("sku", .str "A")], .obj [("sku", .str "B")]]),
  ("01", .str "bundle")]

theorem resolve_addresses_catalogue :
    resolve (".".intercalate ["items", "01", "sku"]) catalogue = .ok (some (.str "B")) ∧
      resolve (".".intercalate ["items", "-1", "sku"]) catalogue = .ok none ∧
      resolve (".".intercalate ["01"]) catalogue = .ok (some (.str "bundle")) ∧
      resolve (".".intercalate ([.key "items", .position 0, .key "sku"].map Branch.text))
        catalogue = .ok (some (.str "A")) := by
  obtain ⟨hparts, -, -, hinside⟩ := resolve_addresses catalogue
  refine ⟨?_, ?_, ?_, ?_⟩
  · refine ((hparts ["items", "01", "sku"] (by decide) (by decide)).1 _).mpr ?_
    exact .onward (.member rfl) (.onward (.element (by decide) (by simp) rfl)
      (.onward (.member rfl) (.here _)))
  · refine (hparts ["items", "-1", "sku"] (by decide) (by decide)).2.mpr ?_
    rintro value (_ | ⟨⟨hitems⟩, (_ | ⟨hstep, -⟩)⟩)
    obtain rfl := Option.some.inj hitems
    cases hstep with
    | element hne hdigits h => exact absurd hdigits (by simp)
  · refine ((hparts ["01"] (by decide) (by decide)).1 _).mpr ?_
    exact .onward (.member rfl) (.here _)
  · refine hinside [.key "items", .position 0, .key "sku"] _ (by decide) ?_ (by decide)
    exact .member rfl (.element rfl (.member rfl .here))

end Automation.Json
