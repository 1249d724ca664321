import NetconfGate.Channel.Group
import Mathlib.Data.List.Induction

/-!
# The tasks of a group

Which tasks run after each operation on a group, and how the number of active
tasks follows from them. A group is terminated exactly when it is sealed and
none of its tasks runs.
-/

namespace NetconfGate.Channel

namespace Group

theorem isRunning_iff (g : Group) (task : Nat) :
    g.isRunning task = true ↔ g.tasks[task]? = some none := by
  simp [isRunning]

theorem lt_length_of_isRunning {g : Group} {task : Nat} (runs : g.isRunning task = true) :
    task < g.tasks.length :=
  (List.getElem?_eq_some_iff.mp ((g.isRunning_iff task).mp runs)).1

theorem mem_running (g : Group) (task : Nat) :
    task ∈ g.running ↔ g.isRunning task = true := by
  unfold running
  rw [List.mem_filter, List.mem_range]
  constructor
  · rintro ⟨_, runs⟩
    exact runs
  · intro runs
    exact ⟨lt_length_of_isRunning runs, runs⟩

/-- The active tasks are counted as the running ones are listed. -/
theorem active_eq_length_running (g : Group) : g.active = g.running.length := by
  have listed (tasks : List (Option Outcome)) :
      tasks.countP Option.isNone =
        ((List.range tasks.length).filter fun task => tasks[task]? == some none).length := by
    induction tasks using List.reverseRecOn with
    | nil => rfl
    | append_singleton tasks last ih =>
        have before : (List.range tasks.length).filter
              (fun task => (tasks ++ [last])[task]? == some none) =
            (List.range tasks.length).filter fun task => tasks[task]? == some none := by
          apply List.filter_congr
          intro task member
          rw [List.getElem?_append_left (List.mem_range.mp member)]
        rw [List.countP_append, ih, List.length_append, List.length_singleton, List.range_succ,
          List.filter_append, List.length_append, before]
        cases last <;> simp
  exact listed g.tasks

theorem active_eq_zero_iff (g : Group) :
    g.active = 0 ↔ ∀ task, g.isRunning task = false := by
  rw [active_eq_length_running, List.length_eq_zero_iff, List.eq_nil_iff_forall_not_mem]
  simp only [mem_running, Bool.not_eq_true]

theorem isTerminated_iff (g : Group) :
    g.isTerminated = true ↔ g.sealed = true ∧ ∀ task, g.isRunning task = false := by
  simp [isTerminated, active_eq_zero_iff]

/-- A sealed group that is not terminated has work left. -/
theorem exists_running {g : Group} (isSealed : g.sealed = true)
    (unfinished : g.isTerminated = false) : ∃ task, g.isRunning task = true := by
  refine Classical.byContradiction fun idle => ?_
  have terminated := (isTerminated_iff g).mpr
    ⟨isSealed, fun task => Bool.eq_false_iff.mpr fun runs => idle ⟨task, runs⟩⟩
  cases unfinished.symm.trans terminated

@[simp]
theorem finish_draining (g : Group) (task : Nat) (outcome : Outcome) :
    (g.finish task outcome).draining = g.draining := by
  unfold finish
  split <;> rfl

@[simp]
theorem finish_sealed (g : Group) (task : Nat) (outcome : Outcome) :
    (g.finish task outcome).sealed = g.sealed := by
  unfold finish
  split <;> rfl

@[simp]
theorem finish_cancelled (g : Group) (task : Nat) (outcome : Outcome) :
    (g.finish task outcome).cancelled = g.cancelled := by
  unfold finish
  split <;> rfl

@[simp]
theorem finish_tokens (g : Group) (task : Nat) (outcome : Outcome) :
    (g.finish task outcome).tokens = g.tokens := by
  unfold finish
  split <;> rfl

@[simp]
theorem length_tasks_finish (g : Group) (task : Nat) (outcome : Outcome) :
    (g.finish task outcome).tasks.length = g.tasks.length := by
  unfold finish
  split <;> simp

theorem finish_eq (g : Group) (task : Nat) (outcome : Outcome) :
    g.finish task outcome = { g with tasks := (g.finish task outcome).tasks } := by
  unfold finish
  split <;> rfl

theorem finishAll_eq (g : Group) (tasks : List Nat) (outcome : Outcome) :
    g.finishAll tasks outcome = { g with tasks := (g.finishAll tasks outcome).tasks } := by
  induction tasks generalizing g with
  | nil => rfl
  | cons task rest ih =>
      change (g.finish task outcome).finishAll rest outcome = _
      rw [ih, finish_draining, finish_sealed, finish_cancelled, finish_tokens]
      rfl

theorem isRunning_finish (g : Group) (task other : Nat) (outcome : Outcome) :
    (g.finish task outcome).isRunning other = (g.isRunning other && other != task) := by
  unfold finish
  by_cases same : other = task
  · subst same
    by_cases runs : g.isRunning other = true
    · rw [if_pos runs]
      simp [isRunning, List.getElem?_set_self (lt_length_of_isRunning runs)]
    · rw [if_neg runs]
      simp [Bool.eq_false_iff.mpr runs]
  · split
    · simp [isRunning, List.getElem?_set_ne (Ne.symm same), same]
    · simp [same]

/-- A refused task leaves nothing behind; an admitted one is the next in line. -/
theorem enrol_eq (g : Group) :
    (g.draining = true ∧ g.enrol = .error .groupShutdown) ∨
      (g.draining = false ∧
        g.enrol = .ok (g.tasks.length, { g with tasks := g.tasks ++ [none] })) := by
  cases draining : g.draining with
  | false => exact Or.inr ⟨rfl, by simp [enrol, draining]⟩
  | true => exact Or.inl ⟨rfl, by simp [enrol, draining]⟩

theorem isRunning_enrol {g next : Group} {task : Nat} (admitted : g.enrol = .ok (task, next))
    (other : Nat) :
    next.isRunning other = true ↔ other = task ∨ g.isRunning other = true := by
  rcases g.enrol_eq with ⟨_, refused⟩ | ⟨_, taken⟩
  · rw [refused] at admitted
    cases admitted
  · rw [taken] at admitted
    cases admitted
    rw [isRunning_iff, isRunning_iff, List.getElem?_append]
    split
    · rename_i inside
      constructor
      · exact Or.inr
      · rintro (same | runs)
        · omega
        · exact runs
    · rename_i outside
      rw [List.getElem?_eq_none (by omega : g.tasks.length ≤ other)]
      by_cases same : other = g.tasks.length
      · simp [same]
      · have beyond : other - g.tasks.length ≠ 0 := by omega
        simp [same, beyond]

theorem getElem?_finish_of_ne (g : Group) {task other : Nat} (different : other ≠ task)
    (outcome : Outcome) : (g.finish task outcome).tasks[other]? = g.tasks[other]? := by
  unfold finish
  split
  · exact List.getElem?_set_ne (Ne.symm different)
  · rfl

theorem getElem?_finishAll (g : Group) (tasks : List Nat) (outcome : Outcome) (task : Nat) :
    (g.finishAll tasks outcome).tasks[task]? =
      if task ∈ tasks ∧ g.isRunning task = true then some (some outcome) else g.tasks[task]? := by
  induction tasks generalizing g with
  | nil => simp [finishAll]
  | cons first rest ih =>
      change ((g.finish first outcome).finishAll rest outcome).tasks[task]? = _
      rw [ih, isRunning_finish]
      by_cases same : task = first
      · subst same
        by_cases runs : g.isRunning task = true
        · simp [runs, finish, List.getElem?_set_self (lt_length_of_isRunning runs)]
        · simp [runs, finish]
      · simp [same, g.getElem?_finish_of_ne same]

/-- Tasks that are stopped together might have been stopped one by one. -/
theorem stopAll_eq_finishAll {g : Group} (asked : g.cancelled = true) :
    g.stopAll = g.finishAll g.running .cancelled := by
  have tasks : g.tasks.map (fun outcome => some (outcome.getD .cancelled)) =
      (g.finishAll g.running .cancelled).tasks := by
    apply List.ext_getElem?
    intro task
    rw [getElem?_finishAll, List.getElem?_map]
    by_cases runs : g.isRunning task = true
    · rw [if_pos ⟨(g.mem_running task).mpr runs, runs⟩, (g.isRunning_iff task).mp runs]
      rfl
    · rw [if_neg fun both => runs both.2]
      rw [isRunning_iff] at runs
      cases found : g.tasks[task]? with
      | none => rfl
      | some outcome =>
          cases outcome with
          | none => exact absurd found runs
          | some outcome => rfl
  rw [finishAll_eq, ← tasks]
  simp [stopAll, asked]

theorem isRunning_append (g : Group) (task : Nat) (runs : g.isRunning task = true) :
    ({ g with tasks := g.tasks ++ [none] } : Group).isRunning task = true := by
  rw [isRunning_iff, List.getElem?_append_left (lt_length_of_isRunning runs)]
  exact (g.isRunning_iff task).mp runs

@[simp]
theorem stopAll_draining (g : Group) : g.stopAll.draining = g.draining := by
  unfold stopAll
  split <;> rfl

theorem isRunning_stopAll {g : Group} (asked : g.cancelled = true) (task : Nat) :
    g.stopAll.isRunning task = false :=
  (active_eq_zero_iff _).mp (active_stopAll asked) task

theorem getElem?_finish {g : Group} {task : Nat} (runs : g.isRunning task = true)
    (other : Nat) (outcome : Outcome) :
    (g.finish task outcome).tasks[other]? =
      if other = task then some (some outcome) else g.tasks[other]? := by
  have listed := g.getElem?_finishAll [task] outcome other
  change (g.finish task outcome).tasks[other]? = _ at listed
  rw [listed]
  by_cases same : other = task
  · subst same
    simp [runs]
  · simp [same]

theorem active_finish {g : Group} {task : Nat} (runs : g.isRunning task = true)
    (outcome : Outcome) : (g.finish task outcome).active < g.active := by
  have inside := lt_length_of_isRunning runs
  have found : g.tasks[task] = none := by
    have told := (g.isRunning_iff task).mp runs
    rw [List.getElem?_eq_getElem inside] at told
    exact Option.some.inj told
  have counted : 0 < g.active :=
    List.countP_pos_iff.mpr ⟨none, found ▸ List.getElem_mem inside, rfl⟩
  have fewer : (g.finish task outcome).active = g.active - 1 := by
    simp [finish, runs, active, List.countP_set inside, found]
  omega

/-- An outcome is told once and for all. -/
theorem outcome?_finish {g : Group} {task other : Nat} {told outcome : Outcome}
    (ended : g.outcome? other = some told) : (g.finish task outcome).outcome? other = some told := by
  by_cases runs : g.isRunning task = true
  · have different : other ≠ task := by
      rintro rfl
      rw [outcome?, (g.isRunning_iff other).mp runs] at ended
      cases ended
    rw [outcome?, getElem?_finish runs, if_neg different]
    exact ended
  · rw [outcome?_finish_of_ended outcome (Bool.eq_false_iff.mpr runs)]
    exact ended

theorem drain_of_sealed {g : Group} (drains : g.draining = true) (up : g.sealed = true) :
    g.drain = g := by
  obtain ⟨draining, isSealed, cancelled, tasks, tokens⟩ := g
  cases drains
  cases up
  rfl

theorem cancelDrain_of_draining {g : Group} (drains : g.draining = true) :
    g.cancelDrain = g := by
  obtain ⟨draining, isSealed, cancelled, tasks, tokens⟩ := g
  cases drains
  rfl

end Group

end NetconfGate.Channel
