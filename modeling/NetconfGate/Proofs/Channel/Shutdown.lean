import NetconfGate.Channel.Countdown
import NetconfGate.Proofs.Channel.Lifecycle

/-!
# Services that shut down

A closing service admits no task and raises no signal but the one that cancels
its tasks. So what a close leaves behind is told by the outcomes of the tasks
and by that signal, and a close that is told as a whole is known by them: a
graceful one completes the tasks that end in time, and whatever is left then is
cancelled.
-/

namespace NetconfGate.Channel

/-- Closed, and no task is admitted any more. -/
structure Service.Shutting (s : Service) : Prop where
  isClosed : s.closed = true
  drains : s.group.draining = true
  isSealed : s.group.sealed = true

/-- How long a close leaves the tasks to themselves. -/
def CloseMode.patience : CloseMode → Duration
  | .graceful => closeTimeout
  | .immediate => .zero

namespace Service

theorem shutting_beginClose {s : Service} (isOpen : s.closed = false) (mode : CloseMode) :
    (s.beginClose mode).Shutting := by
  unfold beginClose
  rw [isOpen]
  cases mode with
  | graceful => exact ⟨rfl, rfl, rfl⟩
  | immediate => exact ⟨rfl, rfl, rfl⟩

@[simp]
theorem tasks_beginClose (s : Service) (mode : CloseMode) :
    (s.beginClose mode).group.tasks = s.group.tasks := by
  unfold beginClose
  split
  · rfl
  · cases mode <;> rfl

/-- Whatever spares the tasks of such a service changes tokens at most. -/
theorem Shutting.perform {s : Service} (shutting : s.Shutting) {operation : Operation}
    (spares : operation.spares = true) :
    ∃ tokens, (s.perform operation).1 = { s with group := { s.group with tokens := tokens } } := by
  cases operation with
  | spawn =>
      rcases s.perform_spawn with ⟨_, refused⟩ | ⟨isOpen, _⟩
      · rw [refused]
        exact ⟨s.group.tokens, rfl⟩
      · rw [shutting.drains] at isOpen
        cases isOpen
  | ends task outcome => cases spares
  | cancel => cases spares
  | drain =>
      have same := Group.drain_of_sealed shutting.drains shutting.isSealed
      exact ⟨s.group.tokens, congrArg (fun group => { s with group := group }) same⟩
  | beginClose mode =>
      have same : s.beginClose mode = s := by simp [beginClose, shutting.isClosed]
      exact ⟨s.group.tokens, same⟩
  | takeToken => exact ⟨s.group.tokens ++ [false], rfl⟩
  | cancelToken token => exact ⟨s.group.tokens.set token true, rfl⟩
  | cancelDrain =>
      have same := Group.cancelDrain_of_draining shutting.drains
      exact ⟨s.group.tokens, congrArg (fun group => { s with group := group }) same⟩

/-- Tasks and the signal that stops them apart, `later` is what `s` was. -/
def WindsDown (s later : Service) : Prop :=
  later = { s with
    group := { s.group with tasks := later.group.tasks, cancelled := later.group.cancelled } }

theorem WindsDown.refl (s : Service) : s.WindsDown s := rfl

theorem WindsDown.trans {first middle last : Service} (one : first.WindsDown middle)
    (two : middle.WindsDown last) : first.WindsDown last := by
  unfold WindsDown at one two ⊢
  rw [one] at two
  exact two

/-- Nothing but the tasks and that signal can tell two ends apart. -/
theorem WindsDown.ext {s one two : Service} (first : s.WindsDown one) (second : s.WindsDown two)
    (tasks : one.group.tasks = two.group.tasks)
    (cancelled : one.group.cancelled = two.group.cancelled) : one = two := by
  unfold WindsDown at first second
  rw [tasks, cancelled] at first
  exact first.trans second.symm

theorem windsDown_finishAll (s : Service) (tasks : List Nat) (outcome : Outcome) :
    s.WindsDown { s with group := s.group.finishAll tasks outcome } := by
  have shape := s.group.finishAll_eq tasks outcome
  unfold WindsDown
  rw [shape]

theorem Shutting.finishAll {s : Service} (shutting : s.Shutting) (tasks : List Nat)
    (outcome : Outcome) : ({ s with group := s.group.finishAll tasks outcome } : Service).Shutting := by
  rw [Group.finishAll_eq]
  exact ⟨shutting.isClosed, shutting.drains, shutting.isSealed⟩

theorem Shutting.windsDown_cancelAll {s : Service} (shutting : s.Shutting) :
    s.WindsDown { s with group := s.group.cancelAll } := by
  simp [WindsDown, Group.cancelAll, shutting.drains, shutting.isSealed]

theorem endsInTime_eq_false_iff (ends : Nat → Option Duration) (task : Nat) :
    endsInTime ends task = false ↔ Countdown.Pending ends task closeTimeout := by
  unfold endsInTime Countdown.Pending
  cases ends task with
  | none => simp
  | some time => simp

theorem lastEnd_le_iff (ends : Nat → Option Duration) (tasks : List Nat) (bound : Nat) :
    (lastEnd ends tasks).nanos ≤ bound ↔
      ∀ task ∈ tasks, ∀ time, ends task = some time → time.nanos ≤ bound := by
  have fold (first : Nat) :
      tasks.foldl (fun latest task => max latest (((ends task).map Duration.nanos).getD 0))
          first ≤ bound ↔
        first ≤ bound ∧ ∀ task ∈ tasks, ∀ time, ends task = some time → time.nanos ≤ bound := by
    induction tasks generalizing first with
    | nil => simp
    | cons task rest ih =>
        rw [List.foldl_cons, ih, List.forall_mem_cons, Nat.max_le, and_assoc]
        cases ends task with
        | none => simp
        | some time => simp
  unfold lastEnd
  rw [fold]
  simp

theorem le_lastEnd {ends : Nat → Option Duration} {tasks : List Nat} {task : Nat}
    {time : Duration} (member : task ∈ tasks) (due : ends task = some time) :
    time.nanos ≤ (lastEnd ends tasks).nanos :=
  (lastEnd_le_iff ends tasks _).mp (Nat.le_refl _) task member time due

/-- Not all tasks of `s` would end while a graceful close waits. -/
def InVain (s : Service) (mode : CloseMode) (ends : Nat → Option Duration) : Prop :=
  mode = .graceful → ∃ task, s.group.isRunning task = true ∧ endsInTime ends task = false

/-- What becomes of a task that stops only when it has to. -/
def verdict (mode : CloseMode) (ends : Nat → Option Duration) (task : Nat) : Outcome :=
  match mode with
  | .graceful => if endsInTime ends task then .completed else .cancelled
  | .immediate => .cancelled

variable {s : Service} {mode : CloseMode} {ends : Nat → Option Duration}

theorem close_immediate (isOpen : s.closed = false) (ends : Nat → Option Duration) :
    (s.close .immediate ends).service =
      { s.beginClose .immediate with
        group := s.group.cancelAll.finishAll s.group.running .cancelled } := by
  have stopped := Group.stopAll_eq_finishAll (rfl : s.group.cancelAll.cancelled = true)
  simp only [close, force, beginClose, isOpen, stopped]
  rfl

theorem close_graceful_of_all (isOpen : s.closed = false)
    (all : s.group.running.all (endsInTime ends) = true) :
    (s.close .graceful ends).service =
      { s.beginClose .graceful with
        group := s.group.drain.finishAll (s.group.running.filter (endsInTime ends))
          .completed } := by
  simp [close, beginClose, isOpen, all]

theorem close_graceful_of_not_all (isOpen : s.closed = false)
    (slow : s.group.running.all (endsInTime ends) = false) :
    let drained := s.group.drain.finishAll (s.group.running.filter (endsInTime ends))
      .completed
    (s.close .graceful ends).service =
      { s.beginClose .graceful with
        group := drained.cancelAll.finishAll drained.running .cancelled } := by
  intro drained
  have stopped := Group.stopAll_eq_finishAll (rfl : drained.cancelAll.cancelled = true)
  simp only [close, force, beginClose, isOpen, slow]
  exact congrArg (fun group => { s with closed := true, group := group }) stopped

theorem windsDown_close (isOpen : s.closed = false) (mode : CloseMode)
    (ends : Nat → Option Duration) :
    (s.beginClose mode).WindsDown (s.close mode ends).service := by
  cases mode with
  | immediate =>
      rw [close_immediate isOpen]
      have begun : (s.beginClose .immediate).group = s.group.cancelAll := by
        simp [beginClose, isOpen]
      rw [← begun]
      exact windsDown_finishAll _ _ _
  | graceful =>
      have begun : (s.beginClose .graceful).group = s.group.drain := by
        simp [beginClose, isOpen]
      have shutting := shutting_beginClose isOpen .graceful
      cases all : s.group.running.all (endsInTime ends) with
      | true =>
          rw [close_graceful_of_all isOpen all, ← begun]
          exact windsDown_finishAll _ _ _
      | false =>
          rw [close_graceful_of_not_all isOpen all, ← begun]
          let prompt := s.group.running.filter (endsInTime ends)
          have drained := (s.beginClose .graceful).windsDown_finishAll prompt .completed
          have forced := (shutting.finishAll prompt .completed).windsDown_cancelAll
          exact (drained.trans forced).trans (windsDown_finishAll _ _ .cancelled)

/-- What a whole close makes of each task. -/
theorem getElem?_close (isOpen : s.closed = false) (mode : CloseMode)
    (ends : Nat → Option Duration) (task : Nat) :
    (s.close mode ends).service.group.tasks[task]? =
      if s.group.isRunning task = true then some (some (verdict mode ends task))
      else s.group.tasks[task]? := by
  have member := s.group.mem_running task
  cases mode with
  | immediate =>
      rw [close_immediate isOpen, Group.getElem?_finishAll]
      by_cases runs : s.group.isRunning task = true
      · rw [if_pos ⟨member.mpr runs, runs⟩, if_pos runs]
        rfl
      · rw [if_neg fun both => runs both.2, if_neg runs]
        rfl
  | graceful =>
      let prompt := s.group.running.filter (endsInTime ends)
      have drained : (s.group.drain.finishAll prompt .completed).tasks[task]? =
          if s.group.isRunning task = true ∧ endsInTime ends task = true then
            some (some .completed)
          else s.group.tasks[task]? := by
        rw [Group.getElem?_finishAll]
        by_cases inTime : s.group.isRunning task = true ∧ endsInTime ends task = true
        · have among : task ∈ prompt := List.mem_filter.mpr ⟨member.mpr inTime.1, inTime.2⟩
          rw [if_pos ⟨among, inTime.1⟩, if_pos inTime]
        · rw [if_neg inTime, if_neg fun both => inTime ⟨both.2, (List.mem_filter.mp both.1).2⟩]
          rfl
      cases all : s.group.running.all (endsInTime ends) with
      | true =>
          rw [close_graceful_of_all isOpen all, drained]
          by_cases runs : s.group.isRunning task = true
          · have inTime := List.all_eq_true.mp all task (member.mpr runs)
            rw [if_pos ⟨runs, inTime⟩, if_pos runs, verdict, if_pos inTime]
          · rw [if_neg fun both => runs both.1, if_neg runs]
      | false =>
          let left := s.group.drain.finishAll prompt .completed
          have forced : (s.close .graceful ends).service.group.tasks[task]? =
              if task ∈ left.running ∧ left.isRunning task = true then some (some .cancelled)
              else left.tasks[task]? := by
            rw [close_graceful_of_not_all isOpen all, Group.getElem?_finishAll]
            rfl
          by_cases runs : s.group.isRunning task = true
          · rw [if_pos runs]
            by_cases inTime : endsInTime ends task = true
            · have ended : left.tasks[task]? = some (some .completed) :=
                drained.trans (if_pos ⟨runs, inTime⟩)
              have still : left.isRunning task ≠ true := by
                rw [ne_eq, Group.isRunning_iff, ended]
                simp
              rw [forced, if_neg fun both => still both.2, ended, verdict, if_pos inTime]
            · have kept : left.tasks[task]? = s.group.tasks[task]? :=
                drained.trans (if_neg fun both => inTime both.2)
              have slow : left.isRunning task = true := by
                rw [Group.isRunning_iff, kept]
                exact (Group.isRunning_iff _ _).mp runs
              rw [forced, if_pos ⟨(Group.mem_running _ _).mpr slow, slow⟩, verdict, if_neg inTime]
          · have kept : left.tasks[task]? = s.group.tasks[task]? :=
              drained.trans (if_neg fun both => runs both.1)
            have still : left.isRunning task ≠ true := by
              rw [ne_eq, Group.isRunning_iff, kept, ← Group.isRunning_iff]
              exact runs
            rw [if_neg runs, forced, if_neg fun both => still both.2, kept]

theorem close_of_all (isOpen : s.closed = false)
    (all : s.group.running.all (endsInTime ends) = true) :
    (s.close .graceful ends).service.group.cancelled = s.group.cancelled ∧
      (s.close .graceful ends).elapsed = lastEnd ends s.group.running := by
  constructor
  · rw [close_graceful_of_all isOpen all, Group.finishAll_eq]
    rfl
  · simp [close, isOpen, all]

theorem close_of_inVain (isOpen : s.closed = false) (inVain : s.InVain mode ends) :
    (s.close mode ends).service.group.cancelled = true ∧
      (s.close mode ends).elapsed = mode.patience := by
  cases mode with
  | immediate =>
      rw [close_immediate isOpen, Group.finishAll_eq]
      simp [close, isOpen, Group.cancelAll, CloseMode.patience]
  | graceful =>
      obtain ⟨task, runs, slow⟩ := inVain rfl
      have notAll : s.group.running.all (endsInTime ends) = false := by
        refine List.all_eq_false.mpr ⟨task, (Group.mem_running _ _).mpr runs, ?_⟩
        rw [slow]
        exact Bool.false_ne_true
      constructor
      · rw [close_graceful_of_not_all isOpen notAll, Group.finishAll_eq]
        rfl
      · simp [close, isOpen, notAll, CloseMode.patience]

end Service

end NetconfGate.Channel
