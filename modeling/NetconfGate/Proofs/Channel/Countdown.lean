import NetconfGate.Proofs.Channel.Shutdown

/-!
# The tasks of a closing service

A closing service admits no task, so every task that runs during the close ran
when it began. A graceful close lets each of them end by itself for as long as
it waits, and an immediate one for no time at all; only tasks that are left then
are cancelled. The invariant of a close on the clock says so for every task, and
tells besides why the call waits or has returned. Every step keeps it.
-/

namespace NetconfGate.Channel

namespace Countdown

/-- What has become of a task that ran when the close began. -/
inductive Fate (mode : CloseMode) (ends : Nat → Option Duration) (c : Countdown)
    (task : Nat) : Prop where
  | running (runs : c.group.isRunning task = true) (ahead : Pending ends task c.now)
  | completed {time : Duration} (outcome : c.group.outcome? task = some .completed)
      (due : ends task = some time) (past : time.nanos ≤ c.now.nanos)
      (allowed : time.nanos ≤ mode.patience.nanos)
  | cancelled (outcome : c.group.outcome? task = some .cancelled)
      (asked : c.group.cancelled = true) (overdue : Pending ends task mode.patience)

/-- What a close of `s` waits for, or how it came to return. -/
inductive Phase (s : Service) (mode : CloseMode) (ends : Nat → Option Duration)
    (c : Countdown) : Prop where
  | draining (stage : c.call.stage = .draining) (graceful : mode = .graceful)
      (since : c.since = .zero) (within : c.now.nanos ≤ closeTimeout.nanos)
      (cancelled : c.group.cancelled = s.group.cancelled)
      (pace : c.now = .zero ∨ ∃ task, s.group.isRunning task = true ∧ Pending ends task c.now)
  | forcing (stage : c.call.stage = .forcing) (since : c.since = mode.patience)
      (now : c.now = mode.patience) (cancelled : c.group.cancelled = true)
      (inVain : s.InVain mode ends)
  | drained (stage : c.call.stage = .returned) (graceful : mode = .graceful)
      (completed : ∀ task, s.group.isRunning task = true →
        c.group.outcome? task = some .completed)
      (since : c.since = Service.lastEnd ends s.group.running)
      (within : c.since.nanos ≤ closeTimeout.nanos)
      (cancelled : c.group.cancelled = s.group.cancelled)
  | forced (stage : c.call.stage = .returned) (since : c.since = mode.patience)
      (past : mode.patience.nanos ≤ c.now.nanos) (cancelled : c.group.cancelled = true)
      (inVain : s.InVain mode ends)

/-- What always holds during a close of `s` and after it. -/
structure Sound (s : Service) (mode : CloseMode) (ends : Nat → Option Duration)
    (c : Countdown) : Prop where
  shutting : c.call.service.Shutting
  length : c.group.tasks.length = s.group.tasks.length
  kept : ∀ task, s.group.isRunning task = false → c.group.tasks[task]? = s.group.tasks[task]?
  fate : ∀ task, s.group.isRunning task = true → Fate mode ends c task
  still : c.hasReturned = true → ∀ task, c.group.isRunning task = false
  phase : Phase s mode ends c

variable {s : Service} {mode : CloseMode} {ends : Nat → Option Duration}
  {c later : Countdown} {task : Nat}

theorem sound_start (isOpen : s.closed = false) (mode : CloseMode)
    (ends : Nat → Option Duration) : Sound s mode ends (start s mode) := by
  have begun : start s mode = ⟨⟨s.beginClose mode, .first mode⟩, .zero, .zero⟩ := by
    simp [start, CloseCall.start, isOpen]
  have tasks := s.tasks_beginClose mode
  rw [begun]
  refine ⟨Service.shutting_beginClose isOpen mode,
    congrArg List.length tasks, ?_, ?_, ?_, ?_⟩
  · intro task _
    exact congrArg (fun tasks : List (Option Outcome) => tasks[task]?) tasks
  · intro task runs
    refine Fate.running ?_ fun time _ => Nat.zero_le _
    change ((s.beginClose mode).group.tasks[task]? == some none) = true
    rw [tasks]
    exact runs
  · intro returned
    cases mode <;> cases returned
  · cases mode with
    | graceful =>
        refine Phase.draining rfl rfl rfl (Nat.zero_le _) ?_ (Or.inl rfl)
        simp [group, Service.beginClose, isOpen, Group.drain]
    | immediate =>
        refine Phase.forcing rfl rfl rfl ?_ fun graceful => by cases graceful
        simp [group, Service.beginClose, isOpen, Group.cancelAll]

/-- Whatever runs during the close ran before it. -/
theorem Sound.ran (sound : Sound s mode ends c) (runs : c.group.isRunning task = true) :
    s.group.isRunning task = true := by
  by_contra idle
  have kept := sound.kept task (Bool.eq_false_iff.mpr idle)
  rw [Group.isRunning_iff, kept] at runs
  exact idle ((Group.isRunning_iff _ _).mpr runs)

/-- A task that runs may still take until its end. -/
theorem Sound.ahead (sound : Sound s mode ends c) (runs : c.group.isRunning task = true) :
    Pending ends task c.now := by
  have ended {outcome : Outcome} (told : c.group.outcome? task = some outcome) : False := by
    rw [Group.outcome?, (Group.isRunning_iff _ _).mp runs] at told
    cases told
  cases sound.fate task (sound.ran runs) with
  | running _ ahead => exact ahead
  | completed told => exact (ended told).elim
  | cancelled told => exact (ended told).elim

theorem Fate.congr (fate : Fate mode ends c task)
    (tasks : later.group.tasks[task]? = c.group.tasks[task]?)
    (asked : c.group.cancelled = true → later.group.cancelled = true)
    (forward : c.now.nanos ≤ later.now.nanos)
    (ahead : c.group.isRunning task = true → Pending ends task later.now) :
    Fate mode ends later task := by
  have outcomes : later.group.outcome? task = c.group.outcome? task := congrArg Option.join tasks
  cases fate with
  | running runs _ =>
      have still : later.group.isRunning task = true := by
        rw [Group.isRunning_iff, tasks]
        exact (Group.isRunning_iff _ _).mp runs
      exact Fate.running still (ahead runs)
  | completed told due past allowed =>
      exact Fate.completed (outcomes.trans told) due (Nat.le_trans past forward) allowed
  | cancelled told was overdue =>
      exact Fate.cancelled (outcomes.trans told) (asked was) overdue

theorem Phase.congr (phase : Phase s mode ends c) (stage : later.call.stage = c.call.stage)
    (now : later.now = c.now) (since : later.since = c.since)
    (asked : later.group.cancelled = c.group.cancelled)
    (outcomes : ∀ task outcome, c.group.outcome? task = some outcome →
      later.group.outcome? task = some outcome) :
    Phase s mode ends later := by
  cases phase with
  | draining at_ graceful zero within cancelled pace =>
      rw [← now] at within pace
      exact Phase.draining (stage.trans at_) graceful (since.trans zero) within
        (asked.trans cancelled) pace
  | forcing at_ came is cancelled inVain =>
      exact Phase.forcing (stage.trans at_) (since.trans came) (now.trans is)
        (asked.trans cancelled) inVain
  | drained at_ graceful completed came within cancelled =>
      rw [← since] at within
      exact Phase.drained (stage.trans at_) graceful
        (fun task runs => outcomes task _ (completed task runs)) (since.trans came) within
        (asked.trans cancelled)
  | forced at_ came past cancelled inVain =>
      rw [← now] at past
      exact Phase.forced (stage.trans at_) (since.trans came) past (asked.trans cancelled) inVain

theorem Sound.finish {outcome : Outcome} (sound : Sound s mode ends c)
    (runs : c.group.isRunning task = true)
    (fate : Fate mode ends (c.finish task outcome) task) :
    Sound s mode ends (c.finish task outcome) := by
  have tasks (other : Nat) (different : other ≠ task) :
      (c.finish task outcome).group.tasks[other]? = c.group.tasks[other]? := by
    change (c.group.finish task outcome).tasks[other]? = _
    rw [Group.getElem?_finish runs, if_neg different]
  have cancelled : (c.finish task outcome).group.cancelled = c.group.cancelled :=
    Group.finish_cancelled _ _ _
  refine ⟨⟨sound.shutting.isClosed, ?_, ?_⟩, ?_, ?_, ?_, ?_, ?_⟩
  · exact (Group.finish_draining _ _ _).trans sound.shutting.drains
  · exact (Group.finish_sealed _ _ _).trans sound.shutting.isSealed
  · exact (Group.length_tasks_finish _ _ _).trans sound.length
  · intro other idle
    have different : other ≠ task := by
      rintro rfl
      rw [sound.ran runs] at idle
      cases idle
    rw [tasks other different]
    exact sound.kept other idle
  · intro other ran
    by_cases same : other = task
    · rw [same]
      exact fate
    · exact (sound.fate other ran).congr (tasks other same) cancelled.trans (Nat.le_refl _)
        sound.ahead
  · intro returned
    rw [sound.still returned task] at runs
    cases runs
  · exact sound.phase.congr rfl rfl rfl cancelled fun other told => Group.outcome?_finish

theorem Sound.meanwhile (sound : Sound s mode ends c) {operation : Operation}
    (spares : operation.spares = true) :
    Sound s mode ends (c.setService (c.call.service.perform operation).1) := by
  obtain ⟨tokens, same⟩ := sound.shutting.perform spares
  rw [same]
  refine ⟨⟨sound.shutting.isClosed, sound.shutting.drains, sound.shutting.isSealed⟩,
    sound.length, sound.kept, ?_, sound.still, ?_⟩
  · intro task ran
    exact (sound.fate task ran).congr rfl id (Nat.le_refl _) sound.ahead
  · exact sound.phase.congr rfl rfl rfl rfl fun _ _ told => told

theorem Sound.passes {time : Duration} (sound : Sound s mode ends c)
    (forward : c.now.nanos ≤ time.nanos) (idle : c.Idle ends time) :
    Sound s mode ends { c with now := time } := by
  refine ⟨sound.shutting, sound.length, sound.kept, ?_, sound.still, ?_⟩
  · intro task ran
    exact (sound.fate task ran).congr rfl id forward (idle.tasks task)
  · cases sound.phase with
    | draining stage graceful since within cancelled pace =>
        rcases idle.call with returned | ⟨unfinished, soon⟩
        · simp [hasReturned, stage] at returned
        · obtain ⟨task, runs⟩ := Group.exists_running (g := c.group) sound.shutting.isSealed unfinished
          have inside : time.nanos ≤ closeTimeout.nanos := by
            simpa [since, Duration.zero] using soon
          exact Phase.draining stage graceful since inside cancelled
            (Or.inr ⟨task, sound.ran runs, idle.tasks task runs⟩)
    | forcing stage since now cancelled inVain =>
        rcases idle.call with returned | ⟨unfinished, _⟩
        · simp [hasReturned, stage] at returned
        · obtain ⟨task, runs⟩ := Group.exists_running (g := c.group) sound.shutting.isSealed unfinished
          rw [idle.settled cancelled task] at runs
          cases runs
    | drained stage graceful completed since within cancelled =>
        exact Phase.drained stage graceful completed since within cancelled
    | forced stage since past cancelled inVain =>
        exact Phase.forced stage since (Nat.le_trans past forward) cancelled inVain

theorem resume_of_terminated (terminated : c.group.isTerminated = true)
    (waits : c.call.stage ≠ .returned) :
    c.resume = ⟨{ c.call with stage := .returned }, c.now, c.now⟩ := by
  have isOver : c.call.service.group.isTerminated = true := terminated
  cases stage : c.call.stage with
  | draining => simp [resume, CloseCall.resume, stage, isOver]
  | forcing => simp [resume, CloseCall.resume, stage, isOver]
  | returned => exact absurd stage waits

theorem resume_of_late (unfinished : c.group.isTerminated = false) (late : c.isLate = true)
    (stage : c.call.stage = .draining) :
    c.resume =
      ⟨⟨{ c.call.service with group := c.group.cancelAll }, .forcing⟩, c.now, c.now⟩ := by
  have left : c.call.service.group.isTerminated = false := unfinished
  simp [resume, CloseCall.resume, stage, left, late, group]

/-- What the call does when it goes on. -/
theorem resume_eq (c : Countdown) :
    (c.group.isTerminated = true ∧ c.call.stage ≠ .returned ∧
        c.resume = ⟨{ c.call with stage := .returned }, c.now, c.now⟩) ∨
      (c.group.isTerminated = false ∧ c.isLate = true ∧ c.call.stage = .draining ∧
        c.resume = ⟨⟨{ c.call.service with group := c.group.cancelAll }, .forcing⟩,
          c.now, c.now⟩) ∨
      (c.isLate = true ∧ c.call.stage = .forcing) ∨
      c.resume = c := by
  by_cases returned : c.call.stage = .returned
  · refine Or.inr (Or.inr (Or.inr ?_))
    simp [resume, CloseCall.resume_of_returned returned]
  · cases terminated : c.group.isTerminated with
    | true => exact Or.inl ⟨rfl, returned, resume_of_terminated terminated returned⟩
    | false =>
        have left : c.call.service.group.isTerminated = false := terminated
        cases late : c.isLate with
        | true =>
            cases stage : c.call.stage with
            | draining =>
                exact Or.inr (Or.inl ⟨rfl, rfl, rfl, resume_of_late terminated late stage⟩)
            | forcing => exact Or.inr (Or.inr (Or.inl ⟨rfl, rfl⟩))
            | returned => exact absurd stage returned
        | false =>
            refine Or.inr (Or.inr (Or.inr ?_))
            cases stage : c.call.stage with
            | draining => simp [resume, CloseCall.resume, stage, left, late]
            | forcing => simp [resume, CloseCall.resume, stage, left, late]
            | returned => exact absurd stage returned

/-- What a close that drains has come to when no task is left. -/
theorem Sound.drained (sound : Sound s mode ends c) (settled : s.group.Settled)
    (cancelled : c.group.cancelled = s.group.cancelled)
    (still : ∀ task, c.group.isRunning task = false) :
    ∀ task, s.group.isRunning task = true →
      c.group.outcome? task = some .completed ∧
        ∃ time, ends task = some time ∧ time.nanos ≤ c.now.nanos := by
  intro task ran
  cases sound.fate task ran with
  | running runs =>
      rw [still task] at runs
      cases runs
  | completed outcome due past => exact ⟨outcome, _, due, past⟩
  | cancelled _ asked =>
      rw [cancelled] at asked
      rw [settled asked task] at ran
      cases ran

/-- Then it is the time of the last end. -/
theorem Sound.now_eq_lastEnd
    (pace : c.now = .zero ∨ ∃ task, s.group.isRunning task = true ∧ Pending ends task c.now)
    (ended : ∀ task, s.group.isRunning task = true →
      ∃ time, ends task = some time ∧ time.nanos ≤ c.now.nanos) :
    c.now = Service.lastEnd ends s.group.running := by
  have upper : (Service.lastEnd ends s.group.running).nanos ≤ c.now.nanos := by
    refine (Service.lastEnd_le_iff _ _ _).mpr fun task member time due => ?_
    obtain ⟨found, told, past⟩ := ended task ((Group.mem_running _ _).mp member)
    rw [due] at told
    cases told
    exact past
  have lower : c.now.nanos ≤ (Service.lastEnd ends s.group.running).nanos := by
    rcases pace with zero | ⟨task, ran, pending⟩
    · rw [zero]
      exact Nat.zero_le _
    · obtain ⟨time, due, _⟩ := ended task ran
      have member := (Group.mem_running s.group task).mpr ran
      exact Nat.le_trans (pending time due) (Service.le_lastEnd member due)
  exact congrArg Duration.mk (Nat.le_antisymm lower upper)

theorem Sound.returns (sound : Sound s mode ends c) (settled : s.group.Settled)
    (terminated : c.group.isTerminated = true) (waits : c.call.stage ≠ .returned) :
    Sound s mode ends ⟨{ c.call with stage := .returned }, c.now, c.now⟩ := by
  have still := ((Group.isTerminated_iff _).mp terminated).2
  refine ⟨sound.shutting, sound.length, sound.kept, ?_, fun _ => still, ?_⟩
  · intro task ran
    exact (sound.fate task ran).congr rfl id (Nat.le_refl _) sound.ahead
  · cases sound.phase with
    | draining _ graceful _ within cancelled pace =>
        have ended := sound.drained settled cancelled still
        have now := Sound.now_eq_lastEnd pace fun task ran => (ended task ran).2
        exact Phase.drained rfl graceful (fun task ran => (ended task ran).1) now within cancelled
    | forcing _ _ now cancelled inVain =>
        exact Phase.forced rfl now (Nat.le_of_eq (congrArg Duration.nanos now.symm)) cancelled
          inVain
    | drained stage => exact absurd stage waits
    | forced stage => exact absurd stage waits

theorem Sound.forces (sound : Sound s mode ends c) (unfinished : c.group.isTerminated = false)
    (late : c.isLate = true) (stage : c.call.stage = .draining) :
    Sound s mode ends
      ⟨⟨{ c.call.service with group := c.group.cancelAll }, .forcing⟩, c.now, c.now⟩ := by
  refine ⟨⟨sound.shutting.isClosed, rfl, rfl⟩, sound.length, sound.kept, ?_, ?_, ?_⟩
  · intro task ran
    exact (sound.fate task ran).congr rfl (fun _ => rfl) (Nat.le_refl _) sound.ahead
  · intro returned
    cases returned
  · cases sound.phase with
    | draining _ graceful since within _ _ =>
        have now : c.now = closeTimeout := by
          have reached : closeTimeout.nanos ≤ c.now.nanos := by
            simpa [isLate, since, Duration.zero] using late
          exact congrArg Duration.mk (Nat.le_antisymm within reached)
        obtain ⟨task, runs⟩ := Group.exists_running (g := c.group) sound.shutting.isSealed unfinished
        have slow : Service.endsInTime ends task = false :=
          (Service.endsInTime_eq_false_iff ends task).mpr (now ▸ sound.ahead runs)
        have patience : mode.patience = closeTimeout := congrArg CloseMode.patience graceful
        have reached : c.now = mode.patience := now.trans patience.symm
        exact Phase.forcing rfl reached reached rfl fun _ => ⟨task, sound.ran runs, slow⟩
    | forcing other => cases other.symm.trans stage
    | drained other => cases other.symm.trans stage
    | forced other => cases other.symm.trans stage

/-- A call that forces is never late: it stops all tasks in no time. -/
theorem Sound.not_late (sound : Sound s mode ends c) (stage : c.call.stage = .forcing) :
    c.isLate = false := by
  cases sound.phase with
  | forcing _ since now =>
      have positive : 0 < closeTimeout.nanos := by decide
      simp only [isLate, since, now, decide_eq_false_iff_not]
      omega
  | draining other => cases other.symm.trans stage
  | drained other => cases other.symm.trans stage
  | forced other => cases other.symm.trans stage

theorem Sound.resumes (sound : Sound s mode ends c) (settled : s.group.Settled) :
    Sound s mode ends c.resume := by
  rcases c.resume_eq with ⟨terminated, waits, next⟩ | ⟨unfinished, late, stage, next⟩ |
    ⟨late, stage⟩ | next
  · rw [next]
    exact sound.returns settled terminated waits
  · rw [next]
    exact sound.forces unfinished late stage
  · rw [sound.not_late stage] at late
    cases late
  · rw [next]
    exact sound

theorem Sound.completes (sound : Sound s mode ends c) (runs : c.group.isRunning task = true)
    (due : ends task = some c.now) : Sound s mode ends (c.finish task .completed) := by
  have outcome : (c.finish task .completed).group.outcome? task = some .completed := by
    change ((c.group.finish task .completed).tasks[task]?).join = _
    rw [Group.getElem?_finish runs, if_pos rfl]
    rfl
  have allowed : c.now.nanos ≤ mode.patience.nanos := by
    cases sound.phase with
    | draining _ graceful _ within => exact graceful ▸ within
    | forcing _ _ now => exact Nat.le_of_eq (congrArg Duration.nanos now)
    | drained stage =>
        rw [sound.still (by simp [hasReturned, stage]) task] at runs
        cases runs
    | forced stage =>
        rw [sound.still (by simp [hasReturned, stage]) task] at runs
        cases runs
  exact sound.finish runs (Fate.completed outcome due (Nat.le_refl _) allowed)

theorem Sound.stops (sound : Sound s mode ends c) (settled : s.group.Settled)
    (runs : c.group.isRunning task = true) (asked : c.group.cancelled = true) :
    Sound s mode ends (c.finish task .cancelled) := by
  have outcome : (c.finish task .cancelled).group.outcome? task = some .cancelled := by
    change ((c.group.finish task .cancelled).tasks[task]?).join = _
    rw [Group.getElem?_finish runs, if_pos rfl]
    rfl
  have still : (c.finish task .cancelled).group.cancelled = true :=
    (Group.finish_cancelled _ _ _).trans asked
  have overdue : Pending ends task mode.patience := by
    cases sound.phase with
    | draining _ _ _ _ cancelled =>
        have before := sound.ran runs
        rw [settled (cancelled ▸ asked) task] at before
        cases before
    | forcing _ _ now => exact now ▸ sound.ahead runs
    | drained stage =>
        rw [sound.still (by simp [hasReturned, stage]) task] at runs
        cases runs
    | forced stage =>
        rw [sound.still (by simp [hasReturned, stage]) task] at runs
        cases runs
  exact sound.finish runs (Fate.cancelled outcome still overdue)

theorem Sound.step (sound : Sound s mode ends c) (settled : s.group.Settled)
    (step : Step ends c later) : Sound s mode ends later := by
  cases step with
  | completes runs due => exact sound.completes runs due
  | stops runs asked => exact sound.stops settled runs asked
  | meanwhile spares => exact sound.meanwhile spares
  | resumes => exact sound.resumes settled
  | passes forward idle => exact sound.passes forward idle

/-! ## Whole runs -/

theorem Sound.run (sound : Sound s mode ends c) (settled : s.group.Settled)
    (run : Run ends c later) : Sound s mode ends later := by
  induction run with
  | refl => exact sound
  | tail _ step ih => exact ih.step settled step

theorem Run.trans {middle : Countdown} (first : Run ends c middle) (second : Run ends middle later) :
    Run ends c later := by
  induction second with
  | refl => exact first
  | tail _ step ih => exact ih.tail step

theorem Step.outcome (sound : Sound s mode ends c) (step : Step ends c later) {told : Outcome}
    (ended : c.group.outcome? task = some told) : later.group.outcome? task = some told := by
  cases step with
  | completes => exact Group.outcome?_finish ended
  | stops => exact Group.outcome?_finish ended
  | meanwhile spares =>
      obtain ⟨tokens, same⟩ := sound.shutting.perform spares
      rw [same]
      exact ended
  | resumes =>
      rcases c.resume_eq with ⟨_, _, next⟩ | ⟨_, _, _, next⟩ | ⟨late, stage⟩ | next
      · rw [next]
        exact ended
      · rw [next]
        exact ended
      · rw [sound.not_late stage] at late
        cases late
      · rw [next]
        exact ended
  | passes => exact ended

theorem Run.outcome (sound : Sound s mode ends c) (settled : s.group.Settled)
    (run : Run ends c later) {told : Outcome} (ended : c.group.outcome? task = some told) :
    later.group.outcome? task = some told := by
  induction run with
  | refl => exact ended
  | tail before step ih => exact step.outcome (sound.run settled before) ih

end Countdown

end NetconfGate.Channel
