import Automation.Service.Bootstrap

/-!
# The log is configured in steps

An attempt to configure the log attaches a handler before it looks at the level. If there is no such
level, it fails and leaves the handler behind, so that each attempt of this kind adds one more. All
other failures leave the log as it was. The first attempt that names a level attaches its handler
and sets the level, and then the log is configured: no later attempt fails or changes anything.

## Main definitions

* `LogSetup.Attempt` — an attempt to configure the log, with what it asks for.
* `LogSetup.run` — the log after attempts in a row.
* `LogSetup.Course` — what attempts in a row make of the log that nothing has configured.

## Main statements

* `LogSetup.perform_of_open` — one attempt, if the log is not configured.
* `LogSetup.fst_perform_of_fault` — what is left of an attempt that fails.
* `LogSetup.run_of_open` — attempts in a row, if the log is not configured.
* `LogSetup.course_attempts` — the handlers, the level and the failures of attempts in a row.
* `LogSetup.handlers_misspelt` — a misspelt level in front of a level leaves two handlers.
-/

namespace Automation

namespace LogSetup

/-- An attempt to configure the log: the environment that it is made in, and the level that is asked
for, if any is. -/
structure Attempt where
  environment : Environment
  argument : Json

namespace Attempt

/-- What an attempt asks of a log that is not configured: a level, as it is shown, or else what
stands in the way of one. -/
def asks (attempt : Attempt) : Except BootFault String := do
  let settings ← (Settings.load attempt.environment []).mapError .settings
  let name ← (wanted attempt.argument settings.logLevel).mapError .log
  match levelNames.lookup name with
  | none => .error (.log (.unknownLevel name))
  | some level => return level

/-- The level that an attempt names, if there is one. -/
def level? (attempt : Attempt) : Option String :=
  attempt.asks.toOption

/-- Whether an attempt gets as far as a name, and there is no level of the name. -/
def misspelt (attempt : Attempt) : Bool :=
  match attempt.asks with
  | .error (.log (.unknownLevel _)) => true
  | _ => false

end Attempt

/-- The log after an attempt, and what stood in the way. -/
def perform (setup : LogSetup) (attempt : Attempt) : LogSetup × Option BootFault :=
  setup.configureIn attempt.environment attempt.argument

/-- The log after attempts in a row. -/
def run (setup : LogSetup) (attempts : List Attempt) : LogSetup :=
  attempts.foldl (fun setup attempt => (setup.perform attempt).1) setup

/-- The attempts in front of the first one that names a level. -/
def waiting (attempts : List Attempt) : List Attempt :=
  attempts.takeWhile fun attempt => attempt.level?.isNone

variable {setup : LogSetup}

/-! ## One attempt -/

/-- Whether there is a level of a name is not asked when the name is made out. -/
theorem wanted_ne_unknownLevel (argument : Json) (settingsLevel name : String) :
    wanted argument settingsLevel ≠ .error (.unknownLevel name) := by
  intro hwanted
  unfold wanted at hwanted
  split at hwanted
  · split at hwanted <;> simp at hwanted
  · split at hwanted <;> simp at hwanted

theorem perform_of_configured (hconfigured : setup.configured = true) (attempt : Attempt) :
    setup.perform attempt = (setup, none) := by
  rw [perform, configureIn, if_pos hconfigured]

/-- The handler is attached as soon as there is a name, whether or not there is a level of it. -/
theorem perform_of_open (hopen : setup.configured = false) (attempt : Attempt) :
    setup.perform attempt = match attempt.asks with
      | .ok level => (⟨true, level, setup.handlers + 1⟩, none)
      | .error fault =>
        ({ setup with handlers := setup.handlers + attempt.misspelt.toNat }, some fault) := by
  have hbusy : ¬setup.configured = true := by simp [hopen]
  rw [perform, configureIn, if_neg hbusy]
  unfold Attempt.misspelt Attempt.asks
  cases Settings.load attempt.environment [] with
  | error issues => rfl
  | ok settings =>
    delta Except.mapError
    simp only [configure, if_neg hbusy, bind, Except.bind]
    cases hwanted : wanted attempt.argument settings.logLevel with
    | error fault =>
      cases fault with
      | unknownLevel name => exact absurd hwanted (wanted_ne_unknownLevel _ _ _)
      | levelKind value => rfl
    | ok name =>
      dsimp only
      cases levelNames.lookup name with
      | none => rfl
      | some level => rfl

theorem perform_of_ok {attempt : Attempt} {level : String} (hopen : setup.configured = false)
    (hasks : attempt.asks = .ok level) :
    setup.perform attempt = (⟨true, level, setup.handlers + 1⟩, none) := by
  rw [perform_of_open hopen, hasks]

theorem perform_of_error {attempt : Attempt} {fault : BootFault} (hopen : setup.configured = false)
    (hasks : attempt.asks = .error fault) :
    setup.perform attempt =
      ({ setup with handlers := setup.handlers + attempt.misspelt.toNat }, some fault) := by
  rw [perform_of_open hopen, hasks]

/-- An attempt that fails leaves the level and the flag as they were, but one more handler if it was
misspelt. -/
theorem fst_perform_of_fault {attempt : Attempt} {fault : BootFault}
    (hfault : (setup.perform attempt).2 = some fault) :
    (setup.perform attempt).1 =
      { setup with handlers := setup.handlers + attempt.misspelt.toNat } := by
  cases hopen : setup.configured with
  | true =>
    rw [perform_of_configured hopen] at hfault
    cases hfault
  | false =>
    cases hasks : attempt.asks with
    | ok level =>
      rw [perform_of_ok hopen hasks] at hfault
      cases hfault
    | error fault =>
      rw [perform_of_error hopen hasks, ← hopen]

/-- After an attempt that does not fail, the log is configured. -/
theorem configured_of_perform {attempt : Attempt} (hnone : (setup.perform attempt).2 = none) :
    (setup.perform attempt).1.configured = true := by
  cases hopen : setup.configured with
  | true => rw [perform_of_configured hopen, hopen]
  | false =>
    cases hasks : attempt.asks with
    | ok level => rw [perform_of_ok hopen hasks]
    | error fault =>
      rw [perform_of_error hopen hasks] at hnone
      cases hnone

/-! ## Attempts in a row -/

theorem run_cons (attempt : Attempt) (attempts : List Attempt) :
    setup.run (attempt :: attempts) = (setup.perform attempt).1.run attempts :=
  rfl

theorem run_of_configured (hconfigured : setup.configured = true) (attempts : List Attempt) :
    setup.run attempts = setup := by
  induction attempts with
  | nil => rfl
  | cons attempt rest ih => rw [run_cons, perform_of_configured hconfigured, ih]

/-- The log after attempts in a row, if it is not configured before them. -/
theorem run_of_open (hopen : setup.configured = false) (attempts : List Attempt) :
    setup.run attempts = {
      configured := (attempts.findSome? Attempt.level?).isSome
      level := (attempts.findSome? Attempt.level?).getD setup.level
      handlers := setup.handlers + (waiting attempts).countP Attempt.misspelt
        + (attempts.findSome? Attempt.level?).isSome.toNat } := by
  -- An attempt that names a level ends the induction; one that fails leaves the log open for the
  -- rest, with its handler if it is misspelt.
  induction attempts generalizing setup with
  | nil =>
    obtain ⟨configured, level, handlers⟩ := setup
    cases hopen
    rfl
  | cons attempt rest ih =>
    rw [run_cons]
    cases hasks : attempt.asks with
    | ok level =>
      have hlevel : attempt.level? = some level := by rw [Attempt.level?, hasks]; rfl
      rw [perform_of_ok hopen hasks, run_of_configured rfl]
      simp [waiting, hlevel]
    | error fault =>
      have hlevel : attempt.level? = none := by rw [Attempt.level?, hasks]; rfl
      have hwaiting : waiting (attempt :: rest) = attempt :: waiting rest := by
        simp [waiting, hlevel]
      have hcount : (waiting (attempt :: rest)).countP Attempt.misspelt =
          (waiting rest).countP Attempt.misspelt + attempt.misspelt.toNat := by
        rw [hwaiting, List.countP_cons]
        cases attempt.misspelt <;> rfl
      rw [perform_of_error hopen hasks, hcount, List.findSome?_cons, hlevel]
      refine (ih ?_).trans ?_
      · exact hopen
      · simp only [mk.injEq, true_and]
        omega

/-- What attempts in a row make of the log that nothing has configured yet. -/
structure Course (attempts : List Attempt) : Prop where
  /-- Only the attempts in front of the first level leave handlers for nothing, and of these all
  that are misspelt. -/
  handlers : (initial.run attempts).handlers =
    (waiting attempts).countP Attempt.misspelt + (attempts.findSome? Attempt.level?).isSome.toNat
  /-- The first level is the one that is set. -/
  level : (initial.run attempts).level =
    (attempts.findSome? Attempt.level?).getD initial.level
  configured : (initial.run attempts).configured = (attempts.findSome? Attempt.level?).isSome
  /-- An attempt after them that fails changes nothing but the handlers, and these only if it is
  misspelt. -/
  failed : ∀ {attempt : Attempt} {fault : BootFault},
    ((initial.run attempts).perform attempt).2 = some fault →
      ((initial.run attempts).perform attempt).1 = { initial.run attempts with
        handlers := (initial.run attempts).handlers + attempt.misspelt.toNat }
  /-- After an attempt that succeeds, none fails and none changes anything. -/
  settled : ∀ {attempt : Attempt}, ((initial.run attempts).perform attempt).2 = none →
    ∀ (later : List Attempt) (next : Attempt),
      initial.run (attempts ++ attempt :: later) = ((initial.run attempts).perform attempt).1 ∧
      (initial.run (attempts ++ attempt :: later)).perform next =
        (initial.run (attempts ++ attempt :: later), none)

/-- Whatever levels are asked for, and in whatever environments, handlers are left behind by misspelt
levels and by nothing else, and the first level that there is is set for good. -/
theorem course_attempts (attempts : List Attempt) : Course attempts := by
  have hopen : initial.configured = false := rfl
  have hrun := run_of_open hopen attempts
  refine ⟨?_, ?_, ?_, fst_perform_of_fault, ?_⟩
  · rw [hrun]
    show 0 + _ + _ = _
    rw [Nat.zero_add]
  · rw [hrun]
  · rw [hrun]
  · intro attempt hnone later next
    have hconfigured := configured_of_perform hnone
    have hlater : initial.run (attempts ++ attempt :: later) =
        ((initial.run attempts).perform attempt).1 := by
      rw [run, List.foldl_append]
      exact run_of_configured hconfigured later
    rw [hlater]
    exact ⟨rfl, perform_of_configured hconfigured next⟩

/-- A level that there is not fails and leaves its handler, and the level that is asked for next
attaches another. -/
theorem handlers_misspelt :
    (initial.perform ⟨[], .str "foo"⟩).2 = some (.log (.unknownLevel "FOO")) ∧
      (initial.perform ⟨[], .str "foo"⟩).1 ≠ initial ∧
      (initial.run [⟨[], .str "foo"⟩, ⟨[], .str "info"⟩]) = ⟨true, "INFO", 2⟩ := by
  decide

end LogSetup

end Automation
