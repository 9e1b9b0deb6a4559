import Automation.Proofs.Json.Same
import Automation.Proofs.Text.LetterCase
import Automation.Proofs.Validation.Field
import Automation.Settings

/-!
# Where settings come from

A setting is given by an argument or else by a variable, both in any letter case, and has a default
otherwise. So it is with the name of the environment. The database is another matter: a variable
with the exact name `ENV` decides on it, whatever name the environment has in the end. The two agree
as long as nothing else names the environment.

## Main definitions

* `Settings.given?` — what a setting is given, by an argument or by a variable.
* `Settings.Sourced` — how settings come by the name of their environment and by their database.

## Main statements

* `Settings.lookup_gathered` — what is gathered for a setting is what it is given.
* `Settings.sourced_of_load` — all settings that are accepted come by both in this way.
* `Settings.standardDatabase_underTest` — an environment named `test` with the other database.
-/

namespace Automation

open Json (Members)

/-! ## Members written one after another -/

/-- Of values that are written one after another, the last one under a name stays. -/
theorem Json.Members.lookup_foldl_set (pairs members : Members) (name : String) :
    (pairs.foldl (fun members (key, value) => members.set key value) members).lookup name =
      (pairs.reverse.lookup name).or (members.lookup name) := by
  induction pairs generalizing members with
  | nil => rfl
  | cons pair rest ih =>
    obtain ⟨key, value⟩ := pair
    rw [List.foldl_cons, ih, lookup_set, List.reverse_cons, List.lookup_append, Option.or_assoc]
    congr 1
    by_cases hname : name = key
    · simp [hname]
    · simp [List.lookup_cons, beq_false_of_ne hname, hname]

namespace Settings

section

variable {all : List (List String)} {choices : List String} {name : String}
  {find? : List String → Option Json}

/-- What is found for some choices, each under its first name, is not under another name. -/
theorem lookup_firstNames_of_ne (h : ∀ choices ∈ all, choices.headD "" ≠ name) :
    (all.filterMap fun choices => (find? choices).map (choices.headD "", ·)).lookup name = none := by
  rw [List.lookup_eq_none_iff]
  intro found hfound
  obtain ⟨choices, hchoices, heq⟩ := List.mem_filterMap.mp hfound
  obtain ⟨value, -, rfl⟩ := Option.map_eq_some_iff.mp heq
  exact bne_iff_ne.mpr (h choices hchoices).symm

/-- What is found for some choices is under their first name, when no others have it. -/
theorem lookup_firstNames (hchoices : choices ∈ all)
    (hnodup : (all.map (·.headD "")).Nodup) :
    (all.filterMap fun choices => (find? choices).map (choices.headD "", ·)).lookup
      (choices.headD "") = find? choices := by
  induction all with
  | nil => cases hchoices
  | cons first rest ih =>
    rw [List.map_cons, List.nodup_cons] at hnodup
    rcases List.mem_cons.mp hchoices with rfl | hrest
    · have hother : ∀ other ∈ rest, other.headD "" ≠ choices.headD "" := fun other hother heq =>
        hnodup.1 (List.mem_map.mpr ⟨other, hother, heq⟩)
      cases hfind : find? choices with
      | none => simp only [List.filterMap_cons, hfind, Option.map_none, lookup_firstNames_of_ne hother]
      | some value => simp only [List.filterMap_cons, hfind, Option.map_some, List.lookup_cons_self]
    · have hne : choices.headD "" ≠ first.headD "" := fun heq =>
        hnodup.1 (List.mem_map.mpr ⟨choices, hrest, heq⟩)
      cases hfind : find? first with
      | none => simp only [List.filterMap_cons, hfind, Option.map_none, ih hrest hnodup.2]
      | some value =>
        simp only [List.filterMap_cons, hfind, Option.map_some, List.lookup_cons,
          beq_false_of_ne hne, ih hrest hnodup.2]

end

/-! ## What a setting is given -/

variable {environment : Environment} {arguments : Members} {settings : Settings}

/-- What arguments give a setting: the value of the first of its names under which there is an
argument, in any letter case. -/
def ofArguments? (arguments : Members) (choices : List String) : Option Json :=
  choices.findSome? fun name =>
    (arguments.find? fun argument => sameName argument.1 name).map Prod.snd

/-- What variables give a setting: the text of the first of its names under which there is a
variable, in any letter case. -/
def ofVariables? (environment : Environment) (choices : List String) : Option String :=
  choices.findSome? environment.anyCase?

/-- What a setting is given: by an argument, or else by a variable. -/
def given? (environment : Environment) (arguments : Members) (choices : List String) :
    Option Json :=
  (ofArguments? arguments choices).or ((ofVariables? environment choices).map .str)

theorem knownArguments_eq : knownArguments arguments =
    names.filterMap fun choices => (ofArguments? arguments choices).map (choices.headD "", ·) := by
  simp only [knownArguments, ofArguments?, List.map_findSome?, Option.map_map, Function.comp_def]

theorem fromEnvironment_eq : fromEnvironment environment = names.filterMap fun choices =>
    ((ofVariables? environment choices).map Json.str).map (choices.headD "", ·) := by
  simp only [fromEnvironment, ofVariables?, List.map_findSome?, Option.map_map, Function.comp_def]

/-- No setting shares its first name with another. -/
theorem nodup_firstNames : (names.map (·.headD "")).Nodup := by decide

/-- An argument that is no setting has none of their names. -/
theorem lookup_unknownArguments {name : String} (h : name ∈ names.flatten) :
    (unknownArguments arguments).reverse.lookup name = none := by
  rw [List.lookup_eq_none_iff]
  intro argument hargument
  rw [List.mem_reverse, unknownArguments, List.mem_filter] at hargument
  apply bne_iff_ne.mpr
  rintro rfl
  have hknown : names.flatten.any (sameName argument.1) = true :=
    List.any_eq_true.mpr ⟨argument.1, h, decide_eq_true rfl⟩
  rw [hknown] at hargument
  exact absurd hargument.2 (by decide)

theorem lookup_gathered_eq {name : String} (h : name ∈ names.flatten) :
    (gathered environment arguments).lookup name =
      ((knownArguments arguments).reverse.lookup name).or
        ((fromEnvironment environment).lookup name) := by
  rw [gathered, Members.lookup_foldl_set, List.reverse_append, List.lookup_append,
    lookup_unknownArguments h, Option.none_or]

/-- What is gathered under the first name of a setting is what it is given. -/
theorem lookup_gathered {choices : List String} (h : choices ∈ names)
    (hname : choices.headD "" ∈ choices) :
    (gathered environment arguments).lookup (choices.headD "") =
      given? environment arguments choices := by
  have hreverse : (names.reverse.map (·.headD "")).Nodup := by decide
  rw [lookup_gathered_eq (List.mem_flatten.mpr ⟨choices, h, hname⟩), knownArguments_eq,
    fromEnvironment_eq, ← List.filterMap_reverse,
    lookup_firstNames (List.mem_reverse.mpr h) hreverse, lookup_firstNames h nodup_firstNames,
    given?]

/-- Nothing is gathered under a further name of a setting. -/
theorem lookup_gathered_of_ne {name : String} (h : name ∈ names.flatten)
    (hne : ∀ choices ∈ names, choices.headD "" ≠ name) :
    (gathered environment arguments).lookup name = none := by
  rw [lookup_gathered_eq h, knownArguments_eq, fromEnvironment_eq, ← List.filterMap_reverse,
    lookup_firstNames_of_ne fun choices hchoices => hne choices (List.mem_reverse.mp hchoices),
    lookup_firstNames_of_ne hne, Option.or_none]

/-! ## The environment and the database -/

/-- The name of the environment that tests run in, in any letter case. -/
def NamesTest (name : String) : Prop := Text.lower name = "test"

/-- The variable `ENV` names the environment, and no argument and no other variable does. -/
structure NamedByVariable (environment : Environment) (arguments : Members) : Prop where
  unargued : ofArguments? arguments environmentNames = none
  alone : ∀ entry ∈ environment,
    environmentNames.any (sameName entry.1) = true → entry.1 = "ENV"
  nodup : (environment.map Prod.fst).Nodup

/-- How settings come by the name of their environment and by their database. -/
structure Sourced (environment : Environment) (arguments : Members) (settings : Settings) :
    Prop where
  /-- The environment has the name that it is given by an argument, or else by a variable, in any
  letter case. -/
  named : (given? environment arguments environmentNames).getD (.str "development") =
    .str settings.environment
  /-- A variable with the exact name `ENV` decides on the database. -/
  chosen : settings.databaseUrl = databaseUrlOf environment (databaseEnvironment environment)
  /-- So the database is the one for the name of the environment exactly when that name and the
  variable agree on being of tests, or when there is one database for both. -/
  right_iff : settings.databaseUrl = databaseUrlOf environment settings.environment ↔
    (NamesTest settings.environment ↔ NamesTest (databaseEnvironment environment)) ∨
      databaseUrlOf environment "test" = databaseUrlOf environment "development"
  /-- They are the same, and the database is the one for it, when nothing but that variable names
  the environment. -/
  right : NamedByVariable environment arguments →
    settings.environment = databaseEnvironment environment ∧
      settings.databaseUrl = databaseUrlOf environment settings.environment

theorem databaseUrlOf_of_namesTest {name : String} (h : NamesTest name) :
    databaseUrlOf environment name = databaseUrlOf environment "test" := by
  have htest : Text.lower "test" = "test" := by decide
  rw [NamesTest] at h
  rw [databaseUrlOf, databaseUrlOf, if_pos h, if_pos htest]

theorem databaseUrlOf_of_not_namesTest {name : String} (h : ¬ NamesTest name) :
    databaseUrlOf environment name = databaseUrlOf environment "development" := by
  have hother : Text.lower "development" ≠ "test" := by decide
  rw [NamesTest] at h
  rw [databaseUrlOf, databaseUrlOf, if_neg h, if_neg hother]

/-- Two names have one database exactly when both or neither are of tests, unless all names have. -/
theorem databaseUrlOf_eq_iff {name other : String} :
    databaseUrlOf environment name = databaseUrlOf environment other ↔
      (NamesTest other ↔ NamesTest name) ∨
        databaseUrlOf environment "test" = databaseUrlOf environment "development" := by
  by_cases hname : NamesTest name
  · by_cases hother : NamesTest other
    · simp [databaseUrlOf_of_namesTest, hname, hother]
    · simp [databaseUrlOf_of_namesTest, databaseUrlOf_of_not_namesTest, hname, hother]
  · by_cases hother : NamesTest other
    · simp [databaseUrlOf_of_namesTest, databaseUrlOf_of_not_namesTest, hname, hother, eq_comm]
    · simp [databaseUrlOf_of_not_namesTest, hname, hother]

/-- A variable that has a name of its own in any letter case is found by that name. -/
theorem anyCase?_eq_named? {name : String} (hnodup : (environment.map Prod.fst).Nodup)
    (h : ∀ entry ∈ environment, sameName entry.1 name = true → entry.1 = name) :
    environment.anyCase? name = environment.named? name := by
  rw [Environment.anyCase?, Environment.named?]
  cases hfind : environment.reverse.find? fun entry => Text.lower entry.1 = Text.lower name with
  | none =>
    refine (List.lookup_eq_none_iff.mpr fun entry hentry => bne_iff_ne.mpr ?_).symm
    rintro rfl
    exact List.find?_eq_none.mp hfind entry (List.mem_reverse.mpr hentry) (decide_eq_true rfl)
  | some entry =>
    have hentry := List.mem_reverse.mp (List.mem_of_find?_eq_some hfind)
    have hsame := List.find?_some hfind
    rw [← h entry hentry hsame]
    exact (Json.lookup_of_mem hnodup hentry).symm

theorem NamedByVariable.ofVariables? (h : NamedByVariable environment arguments) :
    ofVariables? environment environmentNames = environment.named? "ENV" := by
  have henv : environment.anyCase? "ENV" = environment.named? "ENV" := by
    refine anyCase?_eq_named? h.nodup fun entry hentry hsame => ?_
    exact h.alone entry hentry (List.any_eq_true.mpr ⟨"ENV", by decide, hsame⟩)
  have hother : environment.anyCase? "ENVIRONMENT" = none := by
    rw [Environment.anyCase?, Option.map_eq_none_iff, List.find?_eq_none]
    intro entry hentry hsame
    have hname := h.alone entry (List.mem_reverse.mp hentry)
      (List.any_eq_true.mpr ⟨"ENVIRONMENT", by decide, hsame⟩)
    rw [hname] at hsame
    exact absurd hsame (by decide)
  simp only [Settings.ofVariables?, environmentNames, List.findSome?_cons, List.findSome?_nil, henv,
    hother]
  cases environment.named? "ENV" <;> rfl

open Validation

/-- The two settings of which the environment consists are read under their names. -/
theorem read_of_ofMembers {values : Members} (h : ofMembers values = .ok settings) :
    optional ["database_url"] standardDatabase text values = .ok settings.databaseUrl ∧
      optional environmentNames "development" text values = .ok settings.environment := by
  simp only [ofMembers, Validated.ap_eq_ok_iff, Validated.accept] at h
  -- the settings behind them, and the two with the one in front
  obtain ⟨_, _, ⟨_, _, ⟨_, _, ⟨_, _, ⟨_, _, ⟨_, _, ⟨_, _, h, -, h₁⟩, -, h₂⟩, -, h₃⟩, -, h₄⟩, -, h₅⟩,
    -, h₆⟩, -, h₇⟩ := h
  subst h₁ h₂ h₃ h₄ h₅ h₆ h₇
  obtain ⟨_, _, ⟨_, _, ⟨_, _, ⟨_, _, ⟨_, _, ⟨_, _, ⟨_, _, h, -, h₁⟩, -, h₂⟩, -, h₃⟩, -, h₄⟩, -, h₅⟩,
    -, h₆⟩, -, h₇⟩ := h
  subst h₁ h₂ h₃ h₄ h₅ h₆ h₇
  obtain ⟨_, _, ⟨_, _, ⟨_, _, ⟨rfl⟩, -, rfl⟩, hdatabase, rfl⟩, henvironment, rfl⟩ := h
  exact ⟨hdatabase, henvironment⟩

theorem ofMembers_of_load (h : load environment arguments = .ok settings) :
    ofMembers ((gathered environment arguments).set "database_url"
      (.str (databaseUrlOf environment (databaseEnvironment environment)))) = .ok settings := by
  obtain ⟨_, _, hmap, -, rfl⟩ := Validated.ap_eq_ok_iff.mp h
  obtain ⟨_, hmembers, rfl⟩ := map_eq_ok_iff.mp hmap
  exact hmembers

/-- The name of the environment is what it is given, or else the default. -/
theorem named_of_load (h : load environment arguments = .ok settings) :
    (given? environment arguments environmentNames).getD (.str "development") =
      .str settings.environment := by
  obtain ⟨-, hread⟩ := read_of_ofMembers (ofMembers_of_load h)
  have hsetting : environmentNames ∈ names := by decide
  have hgiven : (gathered environment arguments).lookup "ENV" =
      given? environment arguments environmentNames := lookup_gathered hsetting (by decide)
  have hother : (gathered environment arguments).lookup "ENVIRONMENT" = none :=
    lookup_gathered_of_ne (by decide) (by decide)
  -- the database is written under a name of its own
  have hfirst : "ENV" ≠ "database_url" := by decide
  have hsecond : "ENVIRONMENT" ≠ "database_url" := by decide
  rw [Validation.optional, present?, environmentNames] at hread
  simp only [List.findSome?_cons, List.findSome?_nil, Members.lookup_set, if_neg hfirst,
    if_neg hsecond, hgiven, hother, Option.map_none] at hread
  cases hvalue : given? environment arguments environmentNames with
  | none =>
    simp only [hvalue, Option.map_none] at hread
    exact congrArg Json.str (Except.ok.inj hread)
  | some value =>
    simp only [hvalue, Option.map_some, Validated.under_eq_ok_iff, text_eq_ok_iff] at hread
    exact hread

/-- The variable with the exact name `ENV` decides on the database. -/
theorem chosen_of_load (h : load environment arguments = .ok settings) :
    settings.databaseUrl = databaseUrlOf environment (databaseEnvironment environment) := by
  obtain ⟨hread, -⟩ := read_of_ofMembers (ofMembers_of_load h)
  rw [optional_eq_ok_iff, Members.lookup_set, if_pos rfl] at hread
  obtain ⟨hnone, -⟩ | ⟨value, hvalue, htext⟩ := hread
  · cases hnone
  · obtain rfl := Option.some.inj hvalue
    exact (Json.str.inj (text_eq_ok_iff.mp htext)).symm

/-- Settings that are accepted take the name of their environment from the first source that has it,
and their database from the variable `ENV` alone. -/
theorem sourced_of_load (h : load environment arguments = .ok settings) :
    Sourced environment arguments settings := by
  have hnamed := named_of_load h
  have hchosen := chosen_of_load h
  have hright : NamedByVariable environment arguments →
      settings.environment = databaseEnvironment environment := by
    intro hvariable
    rw [given?, hvariable.unargued, Option.none_or, hvariable.ofVariables?] at hnamed
    rw [databaseEnvironment]
    cases hname : environment.named? "ENV" with
    | none =>
      rw [hname] at hnamed
      exact (Json.str.inj hnamed).symm
    | some name =>
      rw [hname] at hnamed
      exact (Json.str.inj hnamed).symm
  refine ⟨hnamed, hchosen, ?_, fun hvariable => ⟨hright hvariable, ?_⟩⟩
  · rw [hchosen]
    exact databaseUrlOf_eq_iff
  · rw [hright hvariable, hchosen]

/-! ## Variables with ASCII names -/

/-- The value of the last variable of a name, in any case of the ASCII letters. -/
def asciiCase? (environment : Environment) (name : String) : Option String :=
  (environment.reverse.find? fun entry =>
    Text.asciiLower entry.1 = Text.asciiLower name).map Prod.snd

theorem anyCase?_of_ascii {name : String}
    (h : ∀ entry ∈ environment, entry.1.toList.all Text.isAscii = true)
    (hname : name.toList.all Text.isAscii = true) :
    environment.anyCase? name = asciiCase? environment name := by
  have hsame : ∀ entry ∈ environment.reverse,
      decide (Text.lower entry.1 = Text.lower name) =
        decide (Text.asciiLower entry.1 = Text.asciiLower name) := by
    intro entry hentry
    rw [Text.lower_of_ascii hname, Text.lower_of_ascii (h entry (List.mem_reverse.mp hentry))]
  rw [Environment.anyCase?, asciiCase?, ← List.head?_filter, ← List.head?_filter,
    List.filter_congr hsame]

theorem ofVariables?_of_ascii {choices : List String}
    (h : ∀ entry ∈ environment, entry.1.toList.all Text.isAscii = true)
    (hchoices : ∀ name ∈ choices, name.toList.all Text.isAscii = true) :
    ofVariables? environment choices = choices.findSome? (asciiCase? environment) := by
  induction choices with
  | nil => rfl
  | cons name rest ih =>
    obtain ⟨hname, hrest⟩ := List.forall_mem_cons.mp hchoices
    rw [ofVariables?, List.findSome?_cons, List.findSome?_cons, anyCase?_of_ascii h hname,
      ← ih hrest]
    rfl

/-- The names of settings are ASCII, so the letter case of other scripts does not matter to variables
with ASCII names. -/
theorem fromEnvironment_of_ascii
    (h : ∀ entry ∈ environment, entry.1.toList.all Text.isAscii = true) :
    fromEnvironment environment = names.filterMap fun choices =>
      ((choices.findSome? (asciiCase? environment)).map Json.str).map (choices.headD "", ·) := by
  have hnames : ∀ choices ∈ names, ∀ name ∈ choices, name.toList.all Text.isAscii = true := by
    decide
  rw [fromEnvironment_eq]
  refine List.filterMap_congr fun choices hchoices => ?_
  rw [ofVariables?_of_ascii h (hnames choices hchoices)]

theorem gathered_nil : gathered environment [] = fromEnvironment environment := rfl

/-- A process that runs tests on a database of its own. -/
def testing : Environment :=
  [("DATABASE_URL", "sqlite:///events.db"), ("ENV", "Test"), ("TEST_DATABASE_URL", "sqlite:///try.db")]

/-- The settings of such a process have its test database. -/
theorem sourced_of_load_testing :
    ∃ settings, load testing [] = .ok settings ∧ NamedByVariable testing [] ∧
      settings.environment = "Test" ∧ settings.databaseUrl = "sqlite:///try.db" ∧
      Sourced testing [] settings := by
  have hvariable : NamedByVariable testing [] := ⟨rfl, by decide, by decide⟩
  have hgathered : gathered testing [] =
      [("database_url", .str "sqlite:///events.db"), ("ENV", .str "Test")] := by
    rw [gathered_nil, fromEnvironment_of_ascii (by decide)]
    decide +kernel
  have hload : ∃ settings, load testing [] = .ok settings ∧ settings.environment = "Test" ∧
      settings.databaseUrl = "sqlite:///try.db" := by
    rw [load, hgathered]
    exact ⟨_, rfl, by decide, by decide⟩
  obtain ⟨settings, hload, hname, hdatabase⟩ := hload
  exact ⟨settings, hload, hvariable, hname, hdatabase, sourced_of_load hload⟩

/-- An environment that is named `test` by the other of its names has the standard database. -/
theorem standardDatabase_underTest :
    ∃ settings, load [("ENVIRONMENT", "test")] [] = .ok settings ∧
      settings.environment = "test" ∧ settings.databaseUrl = standardDatabase ∧
      databaseUrlOf [("ENVIRONMENT", "test")] settings.environment = testDatabase ∧
      settings.databaseUrl ≠ testDatabase := by
  have hgathered : gathered [("ENVIRONMENT", "test")] [] = [("ENV", .str "test")] := by
    rw [gathered_nil, fromEnvironment_of_ascii (by decide)]
    decide +kernel
  rw [load, hgathered]
  exact ⟨_, rfl, by decide, by decide, by decide, by decide⟩

end Settings

end Automation
