import Automation.Proofs.Service.Deployment

/-!
# The tasks of a deployment

A task remains what it was asked for, and keeps its number. It stays where it stands until it has a
turn or is cancelled; new tasks come behind all others.

## Main statements

* `Deployment.task_step` — how a task comes to where it stands after a move.
* `Deployment.call_step`, `Deployment.call_run` — a task remains what it was asked for.
* `Deployment.exists_run_of_mem_steps` — each step of a run starts where an earlier part has led.
-/

namespace Automation.Deployment

variable {site next : Deployment} {move : ServiceMove} {id : Nat} {call : ServiceCall}
  {stage : Stage}

/-- How a task has come to where it stands when a move is no turn: it was there before, or is
cancelled, or has come behind all others. -/
def Rested (site next : Deployment) : Prop :=
  site.tasks.length ≤ next.tasks.length ∧ ∀ id call stage, next.tasks[id]? = some ⟨call, stage⟩ →
    site.tasks[id]? = some ⟨call, stage⟩ ∨
    (stage = .cancelled ∧ ∃ old, site.tasks[id]? = some ⟨call, old⟩) ∨
    (stage = .scheduled ∧ site.tasks.length ≤ id)

theorem Rested.of_tasks (h : next.tasks = site.tasks) : site.Rested next :=
  ⟨h ▸ Nat.le_refl _, fun _ _ _ htask => .inl (h ▸ htask)⟩

theorem Rested.of_set {old : Stage} (hold : site.tasks[id]? = some ⟨call, old⟩)
    (h : next.tasks = site.tasks.set id ⟨call, .cancelled⟩) : site.Rested next := by
  refine ⟨Nat.le_of_eq (by rw [h, List.length_set]), fun other asked stage htask => ?_⟩
  rw [h] at htask
  by_cases hid : id = other
  · subst hid
    rw [List.getElem?_set_self (List.getElem?_eq_some_iff.mp hold).1] at htask
    cases htask
    exact .inr (.inl ⟨rfl, old, hold⟩)
  · rw [List.getElem?_set_ne hid] at htask
    exact .inl htask

theorem rested_drop {task : Assignment} (h : site.tasks[id]? = some task) :
    site.Rested (site.drop id task) := by
  obtain ⟨call, stage⟩ := task
  cases stage with
  | scheduled => exact .of_set h rfl
  | cancelled => exact .of_tasks rfl
  | reached progress =>
    cases progress with
    | finished result => exact .of_tasks rfl
    | waiting task request =>
      rw [drop]
      split
      · exact .of_tasks rfl
      · exact .of_set h rfl

theorem tasks_note (task : Assignment) : (site.note task).tasks = site.tasks := by
  obtain ⟨call, stage⟩ := task
  cases call with
  | background number event =>
    rw [note]
    split <;> rfl
  | job _ | dispose | find _ | apply _ | record _ | query _ _ | drain => rfl

theorem rested_shift (move : ServiceMove) : site.Rested (site.shift move) := by
  cases move with
  | ask call =>
    rw [shift]
    split
    · refine ⟨by simp, fun id asked stage htask => ?_⟩
      rcases getElem?_append_cases htask with htask | ⟨hle, hmem⟩
      · exact .inl htask
      · cases List.mem_singleton.mp hmem
        exact .inr (.inr ⟨rfl, hle⟩)
    · exact .of_tasks rfl
  | cancel id =>
    rw [shift]
    cases htask : site.tasks[id]? with
    | none => exact .of_tasks rfl
    | some task => exact rested_drop htask
  | noteEnd id =>
    rw [shift]
    cases site.tasks[id]? with
    | none => exact .of_tasks rfl
    | some task => exact .of_tasks (tasks_note task)
  | launch _ | resume _ _ | configure _ | clearCache | register _ | disrupt _ | obstruct _
  | tick _ => exact .of_tasks rfl

/-- How a task has come to where it stands after a move: it was there before, or had its turn, or is
cancelled, or has come behind all others. -/
theorem task_step (h : (site.step move).tasks[id]? = some ⟨call, stage⟩) :
    site.tasks[id]? = some ⟨call, stage⟩ ∨
    (∃ turn, site.turn? move = some (id, call, turn) ∧ stage = .reached turn.progress) ∨
    (stage = .cancelled ∧ ∃ old, site.tasks[id]? = some ⟨call, old⟩) ∨
    (stage = .scheduled ∧ site.tasks.length ≤ id) := by
  cases hturn : site.turn? move with
  | none =>
    rw [step_of_idle hturn] at h
    rcases (rested_shift move).2 id call stage h with h | h | h
    · exact .inl h
    · exact .inr (.inr (.inl h))
    · exact .inr (.inr (.inr h))
  | some entry =>
    obtain ⟨other, asked, turn⟩ := entry
    by_cases hid : other = id
    · subst hid
      obtain ⟨rfl, rfl⟩ : asked = call ∧ .reached turn.progress = stage := by
        simpa using (getElem?_advance hturn).symm.trans h
      exact .inr (.inl ⟨turn, rfl, rfl⟩)
    · rw [step_of_turn? hturn] at h
      rcases getElem?_append_cases h with h | ⟨hle, hmem⟩
      · rw [List.getElem?_set_ne hid] at h
        exact .inl h
      · obtain ⟨application, -, heq⟩ := List.mem_map.mp hmem
        cases heq
        rw [List.length_set] at hle
        exact .inr (.inr (.inr ⟨rfl, hle⟩))

theorem length_le_step (move : ServiceMove) :
    site.tasks.length ≤ (site.step move).tasks.length := by
  cases hturn : site.turn? move with
  | none =>
    rw [step_of_idle hturn]
    exact (rested_shift move).1
  | some entry =>
    rw [step_of_turn? hturn, advance, List.length_append, List.length_set]
    exact Nat.le_add_right _ _

/-- Whatever happens, a task remains what it was asked for. -/
theorem call_step (h : site.tasks[id]? = some ⟨call, stage⟩) (move : ServiceMove) :
    ∃ stage, (site.step move).tasks[id]? = some ⟨call, stage⟩ := by
  have hlt : id < site.tasks.length := (List.getElem?_eq_some_iff.mp h).1
  obtain ⟨⟨asked, later⟩, htask⟩ : ∃ task, (site.step move).tasks[id]? = some task :=
    ⟨_, List.getElem?_eq_getElem (Nat.lt_of_lt_of_le hlt (length_le_step move))⟩
  suffices hcall : asked = call from ⟨later, hcall ▸ htask⟩
  have hsame : ∀ {old : Stage}, site.tasks[id]? = some ⟨asked, old⟩ → asked = call := by
    intro old hold
    cases hold.symm.trans h
    rfl
  rcases task_step htask with hold | ⟨turn, hturn, -⟩ | ⟨-, old, hold⟩ | ⟨-, hle⟩
  · exact hsame hold
  · obtain ⟨old, hold, -⟩ := getElem?_of_turn? hturn
    exact hsame hold
  · exact hsame hold
  · exact absurd hlt (Nat.not_lt.mpr hle)

theorem call_run (h : site.tasks[id]? = some ⟨call, stage⟩) (moves : List ServiceMove) :
    ∃ stage, (site.run moves).tasks[id]? = some ⟨call, stage⟩ := by
  induction moves generalizing site stage with
  | nil => exact ⟨stage, h⟩
  | cons move rest ih =>
    obtain ⟨stage, h⟩ := call_step h move
    exact ih h

/-! ## Runs -/

/-- Each step of a run starts where an earlier part of the run has led. -/
theorem exists_run_of_mem_steps {moves : List ServiceMove} {s : ServiceStep}
    (h : s ∈ site.steps moves) :
    ∃ earlier, s.before = site.run earlier ∧ s.after = site.run (earlier ++ [s.move]) := by
  induction moves using List.reverseRecOn with
  | nil => cases h
  | append_singleton moves move ih =>
    rw [steps_concat] at h
    rcases List.mem_append.mp h with h | h
    · exact ih h
    · rw [List.mem_singleton.mp h]
      exact ⟨moves, rfl, (run_concat moves move).symm⟩

theorem run_append (moves later : List ServiceMove) :
    site.run (moves ++ later) = (site.run moves).run later := List.foldl_append

end Automation.Deployment
