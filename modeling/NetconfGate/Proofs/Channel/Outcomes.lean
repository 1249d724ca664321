import NetconfGate.Proofs.Channel.Countdown
import Mathlib.Data.Nat.Find

/-!
# What a close comes to

From every state that the invariant allows the call can return: tasks complete
in the order of their ends until nobody ends in time any more, and those that
are left are cancelled. Left to itself it comes to what is told of it as a
whole; whatever else happens, what a graceful and what an immediate close make
of the tasks is read off the invariant.
-/

namespace NetconfGate.Channel

namespace Countdown

variable {s : Service} {mode : CloseMode} {ends : Nat → Option Duration}
  {c later : Countdown} {task : Nat}

/-- From `c` the call returns at `last`, nobody else does anything, and every
task that runs has come to its verdict. -/
structure Returns (mode : CloseMode) (ends : Nat → Option Duration) (c last : Countdown) :
    Prop where
  run : Run ends c last
  returned : last.hasReturned = true
  service : c.call.service.WindsDown last.call.service
  outcomes : ∀ task, c.group.isRunning task = true →
    last.group.outcome? task = some (Service.verdict mode ends task)

theorem Returns.after {middle last : Countdown} (returns : Returns mode ends middle last)
    (sound : Sound s mode ends middle) (settled : s.group.Settled) (run : Run ends c middle)
    (service : c.call.service.WindsDown middle.call.service)
    (outcomes : ∀ task, c.group.isRunning task = true → middle.group.isRunning task = true ∨
      middle.group.outcome? task = some (Service.verdict mode ends task)) :
    Returns mode ends c last := by
  refine ⟨run.trans returns.run, returns.returned, service.trans returns.service, ?_⟩
  intro task runs
  rcases outcomes task runs with still | ended
  · exact returns.outcomes task still
  · exact returns.run.outcome sound settled ended

/-- Tasks that were asked to stop can do so one by one. -/
theorem run_finishAll (asked : c.group.cancelled = true) (tasks : List Nat) :
    Run ends c
      (c.setService { c.call.service with group := c.group.finishAll tasks .cancelled }) := by
  induction tasks using List.reverseRecOn with
  | nil => exact Run.refl c
  | append_singleton tasks task ih =>
      let middle := c.setService { c.call.service with group := c.group.finishAll tasks .cancelled }
      have last : c.group.finishAll (tasks ++ [task]) .cancelled =
          (c.group.finishAll tasks .cancelled).finish task .cancelled := by
        simp [Group.finishAll]
      rw [last]
      by_cases runs : middle.group.isRunning task = true
      · have still : middle.group.cancelled = true := by
          change (c.group.finishAll tasks .cancelled).cancelled = true
          rw [Group.finishAll_eq]
          exact asked
        exact ih.tail (Step.stops runs still)
      · have same : (c.group.finishAll tasks .cancelled).finish task .cancelled =
            c.group.finishAll tasks .cancelled :=
          Group.outcome?_finish_of_ended _ (Bool.eq_false_iff.mpr runs)
        rw [same]
        exact ih

/-- A call that has cancelled the group sees all tasks stop. -/
theorem Sound.exists_returns_of_forcing (sound : Sound s mode ends c) (settled : s.group.Settled)
    (stage : c.call.stage = .forcing) : ∃ last, Returns mode ends c last := by
  have asked : c.group.cancelled = true := by
    cases sound.phase with
    | forcing _ _ _ cancelled => exact cancelled
    | draining other => cases other.symm.trans stage
    | drained other => cases other.symm.trans stage
    | forced other => cases other.symm.trans stage
  have stopped := Group.stopAll_eq_finishAll asked
  let middle := c.setService
    { c.call.service with group := c.group.finishAll c.group.running .cancelled }
  have run : Run ends c middle := run_finishAll asked c.group.running
  have still : Sound s mode ends middle := sound.run settled run
  have terminated : middle.group.isTerminated = true := by
    refine (Group.isTerminated_iff _).mpr ⟨still.shutting.isSealed, fun task => ?_⟩
    change (c.group.finishAll c.group.running .cancelled).isRunning task = false
    rw [← stopped]
    exact Group.isRunning_stopAll asked task
  have waits : middle.call.stage ≠ .returned := by
    intro returned
    cases returned.symm.trans stage
  refine ⟨middle.resume, run.tail Step.resumes, ?_, ?_, ?_⟩
  · rw [resume_of_terminated terminated waits]
    rfl
  · rw [resume_of_terminated terminated waits]
    exact c.call.service.windsDown_finishAll _ _
  · intro task runs
    have cancelled : Service.verdict mode ends task = .cancelled := by
      have pending := sound.ahead runs
      cases sound.phase with
      | forcing _ _ now =>
          rw [now] at pending
          cases mode with
          | graceful =>
              have slow := (Service.endsInTime_eq_false_iff ends task).mpr pending
              simp [Service.verdict, slow]
          | immediate => rfl
      | draining other => cases other.symm.trans stage
      | drained other => cases other.symm.trans stage
      | forced other => cases other.symm.trans stage
    rw [resume_of_terminated terminated waits, cancelled]
    change ((c.group.finishAll c.group.running .cancelled).tasks[task]?).join = _
    rw [Group.getElem?_finishAll, if_pos ⟨(Group.mem_running _ _).mpr runs, runs⟩]
    rfl

/-- The next task that ends by itself before a graceful close has waited too long. -/
theorem exists_next {prompt : Nat} (runs : c.group.isRunning prompt = true)
    (inTime : Service.endsInTime ends prompt = true) :
    ∃ task time, c.group.isRunning task = true ∧ ends task = some time ∧
      time.nanos < closeTimeout.nanos ∧
      ∀ other, c.group.isRunning other = true → Pending ends other time := by
  classical
  have due : ∃ nanos task, c.group.isRunning task = true ∧ ends task = some ⟨nanos⟩ ∧
      nanos < closeTimeout.nanos := by
    cases found : ends prompt with
    | none => simp [Service.endsInTime, found] at inTime
    | some time =>
        exact ⟨time.nanos, prompt, runs, found, by simpa [Service.endsInTime, found] using inTime⟩
  obtain ⟨task, first, told, soon⟩ := Nat.find_spec due
  refine ⟨task, ⟨Nat.find due⟩, first, told, soon, ?_⟩
  intro other running time ends_
  by_cases early : time.nanos < closeTimeout.nanos
  · exact Nat.find_min' due ⟨other, running, ends_, early⟩
  · exact Nat.le_of_lt (Nat.lt_of_lt_of_le soon (Nat.not_lt.mp early))

theorem Sound.settled (sound : Sound s mode ends c) (settled : s.group.Settled)
    (cancelled : c.group.cancelled = s.group.cancelled) : c.group.Settled := by
  intro asked task
  refine Bool.eq_false_iff.mpr fun runs => ?_
  have before := sound.ran runs
  rw [settled (cancelled ▸ asked) task] at before
  cases before

/-- The next task that ends in time completes when it is due, and the rest is left
to the close as it goes on from there. -/
theorem Sound.exists_completes (sound : Sound s mode ends c) (settled : s.group.Settled)
    (graceful : mode = .graceful) (since : c.since = .zero) (quiet : c.group.Settled)
    (unfinished : c.group.isTerminated = false) {prompt : Nat}
    (running : c.group.isRunning prompt = true)
    (inTime : Service.endsInTime ends prompt = true) :
    ∃ middle, Run ends c middle ∧ middle.call.stage = c.call.stage ∧
      middle.group.active < c.group.active ∧
      ∀ last, Returns mode ends middle last → Returns mode ends c last := by
  obtain ⟨task, time, runs, due, soon, next⟩ := exists_next running inTime
  have forward : c.now.nanos ≤ time.nanos := sound.ahead runs time due
  have idle : c.Idle ends time := by
    refine ⟨next, quiet, Or.inr ⟨unfinished, ?_⟩⟩
    rw [since]
    exact Nat.le_trans (Nat.le_of_lt soon) (Nat.le_add_left _ _)
  have waited := (Run.refl c).tail (Step.passes forward idle)
  have ended := waited.tail (Step.completes runs due)
  refine ⟨_, ended, rfl, Group.active_finish runs .completed, fun last returns => ?_⟩
  refine returns.after (sound.run settled ended) settled ended
    (c.call.service.windsDown_finishAll [task] .completed) ?_
  intro other still
  by_cases same : other = task
  · right
    have prompt : Service.endsInTime ends task = true := by
      simpa [Service.endsInTime, due] using soon
    have completed : Service.verdict mode ends task = .completed := by
      simp [Service.verdict, graceful, prompt]
    rw [same, completed]
    change ((c.group.finish task .completed).tasks[task]?).join = _
    rw [Group.getElem?_finish runs, if_pos rfl]
    rfl
  · left
    change (c.group.finish task .completed).isRunning other = true
    rw [Group.isRunning_finish, still]
    simpa using same

/-- When nobody ends in time any more, the call waits in vain and cancels the rest. -/
theorem Sound.exists_returns_of_inVain (sound : Sound s mode ends c) (settled : s.group.Settled)
    (stage : c.call.stage = .draining) (since : c.since = .zero)
    (within : c.now.nanos ≤ closeTimeout.nanos) (quiet : c.group.Settled)
    (unfinished : c.group.isTerminated = false)
    (slow : ∀ task, c.group.isRunning task = true → Service.endsInTime ends task = false) :
    ∃ last, Returns mode ends c last := by
  have idle : c.Idle ends closeTimeout := by
    refine ⟨fun task runs => ?_, quiet, Or.inr ⟨unfinished, Nat.le_add_left _ _⟩⟩
    exact (Service.endsInTime_eq_false_iff ends task).mp (slow task runs)
  let waited : Countdown := { c with now := closeTimeout }
  have late : waited.isLate = true := by
    change decide (c.since.nanos + closeTimeout.nanos ≤ closeTimeout.nanos) = true
    rw [since]
    rfl
  have run := ((Run.refl c).tail (Step.passes within idle)).tail Step.resumes
  have forced : waited.resume = _ := resume_of_late unfinished late stage
  rw [show ({ c with now := closeTimeout } : Countdown).resume = _ from forced] at run
  obtain ⟨last, returns⟩ := (sound.run settled run).exists_returns_of_forcing settled rfl
  exact ⟨last, returns.after (sound.run settled run) settled run
    sound.shutting.windsDown_cancelAll fun task runs => Or.inl runs⟩

/-- A close that drains returns: by induction on the number of tasks that run, those
that end in time do so one after the other, and after five seconds the others are
cancelled. -/
theorem Sound.exists_returns_of_draining (sound : Sound s mode ends c)
    (settled : s.group.Settled) (stage : c.call.stage = .draining) :
    ∃ last, Returns mode ends c last := by
  induction left : c.group.active using Nat.strong_induction_on generalizing c with
  | _ active ih =>
  have begun := sound.phase
  cases begun with
  | forcing other => cases other.symm.trans stage
  | drained other => cases other.symm.trans stage
  | forced other => cases other.symm.trans stage
  | draining _ graceful since within cancelled _ =>
    have quiet := sound.settled settled cancelled
    cases terminated : c.group.isTerminated with
    | true =>
        have waits : c.call.stage ≠ .returned := by
          intro returned
          cases returned.symm.trans stage
        refine ⟨c.resume, (Run.refl c).tail Step.resumes, ?_, ?_, ?_⟩
        · rw [resume_of_terminated terminated waits]
          rfl
        · rw [resume_of_terminated terminated waits]
          exact Service.WindsDown.refl _
        · intro task runs
          rw [((Group.isTerminated_iff _).mp terminated).2 task] at runs
          cases runs
    | false =>
        by_cases waiting : ∃ prompt, c.group.isRunning prompt = true ∧
            Service.endsInTime ends prompt = true
        · obtain ⟨prompt, running, inTime⟩ := waiting
          obtain ⟨middle, run, same, fewer, lifts⟩ :=
            sound.exists_completes settled graceful since quiet terminated running inTime
          obtain ⟨last, returns⟩ :=
            ih _ (left ▸ fewer) (sound.run settled run) (same.trans stage) rfl
          exact ⟨last, lifts last returns⟩
        · refine sound.exists_returns_of_inVain settled stage since within quiet terminated ?_
          intro task runs
          exact Bool.eq_false_iff.mpr fun inTime => waiting ⟨task, runs, inTime⟩

/-- From wherever the call is, it can return. -/
theorem Sound.exists_returns (sound : Sound s mode ends c) (settled : s.group.Settled) :
    ∃ last, Returns mode ends c last := by
  cases stage : c.call.stage with
  | draining => exact sound.exists_returns_of_draining settled stage
  | forcing => exact sound.exists_returns_of_forcing settled stage
  | returned =>
      have returned : c.hasReturned = true := by simp [hasReturned, stage]
      refine ⟨c, Run.refl c, returned, Service.WindsDown.refl _, fun task runs => ?_⟩
      rw [sound.still returned task] at runs
      cases runs

/-- Left to itself, a close comes to what it is told to come to as a whole. -/
theorem Sound.agrees {last : Countdown} (sound : Sound s mode ends last)
    (isOpen : s.closed = false) (returns : Returns mode ends (start s mode) last) :
    last.call.service = (s.close mode ends).service ∧
      last.since = (s.close mode ends).elapsed := by
  have outcomes (task : Nat) (runs : s.group.isRunning task = true) :
      last.group.outcome? task = some (Service.verdict mode ends task) := by
    refine returns.outcomes task ?_
    change ((s.beginClose mode).group.tasks[task]? == some none) = true
    rw [s.tasks_beginClose]
    exact runs
  have tasks : last.group.tasks = (s.close mode ends).service.group.tasks := by
    apply List.ext_getElem?
    intro task
    rw [Service.getElem?_close isOpen]
    by_cases runs : s.group.isRunning task = true
    · rw [if_pos runs]
      exact Option.join_eq_some_iff.mp (outcomes task runs)
    · rw [if_neg runs]
      exact sound.kept task (Bool.eq_false_iff.mpr runs)
  have same (cancelled : last.group.cancelled = (s.close mode ends).service.group.cancelled) :=
    returns.service.ext (Service.windsDown_close isOpen mode ends) tasks cancelled
  have returned : last.call.stage = .returned := by
    simpa [hasReturned] using returns.returned
  cases sound.phase with
  | draining other => cases other.symm.trans returned
  | forcing other => cases other.symm.trans returned
  | drained _ graceful completed since _ cancelled =>
      have all : s.group.running.all (Service.endsInTime ends) = true := by
        refine List.all_eq_true.mpr fun task member => ?_
        have runs := (Group.mem_running _ _).mp member
        have told := (outcomes task runs).symm.trans (completed task runs)
        by_contra slow
        simp [Service.verdict, graceful, slow] at told
      subst graceful
      have whole := Service.close_of_all isOpen all
      exact ⟨same (cancelled.trans whole.1.symm), since.trans whole.2.symm⟩
  | forced _ since _ cancelled inVain =>
      have whole := Service.close_of_inVain isOpen inVain
      exact ⟨same (cancelled.trans whole.1.symm), since.trans whole.2.symm⟩

/-! ## What a close comes to -/

theorem Sound.now_le (sound : Sound s mode ends c) (waits : c.hasReturned = false) :
    c.now.nanos ≤ closeTimeout.nanos := by
  cases sound.phase with
  | draining _ _ _ within => exact within
  | forcing _ _ now =>
      rw [now]
      cases mode with
      | graceful => exact Nat.le_refl _
      | immediate => exact Nat.zero_le _
  | drained stage => simp [hasReturned, stage] at waits
  | forced stage => simp [hasReturned, stage] at waits

theorem Sound.isTerminated (sound : Sound s mode ends c) (returned : c.hasReturned = true) :
    c.group.isTerminated = true :=
  (Group.isTerminated_iff _).mpr ⟨sound.shutting.isSealed, sound.still returned⟩

theorem Sound.sockets_eq (sound : Sound s mode ends c) (returned : c.hasReturned = true) :
    c.call.service.sockets = [] :=
  Service.Over.sockets_eq
    ⟨sound.shutting.isClosed, sound.shutting.drains, sound.still returned⟩

/-- A task that ran has completed in time or was cancelled. -/
theorem Sound.ended (sound : Sound s mode ends c) (returned : c.hasReturned = true)
    (ran : s.group.isRunning task = true) :
    (c.group.outcome? task = some .completed ∧
        ∃ time, ends task = some time ∧ time.nanos ≤ mode.patience.nanos) ∨
      (c.group.outcome? task = some .cancelled ∧ Pending ends task mode.patience) := by
  cases sound.fate task ran with
  | running runs =>
      rw [sound.still returned task] at runs
      cases runs
  | completed outcome due _ allowed => exact Or.inl ⟨outcome, _, due, allowed⟩
  | cancelled outcome _ overdue => exact Or.inr ⟨outcome, overdue⟩

theorem Sound.completed (sound : Sound s .graceful ends c) (returned : c.hasReturned = true)
    (ran : s.group.isRunning task = true) (inTime : Service.endsInTime ends task = true) :
    c.group.outcome? task = some .completed := by
  rcases sound.ended returned ran with ⟨completed, _⟩ | ⟨_, overdue⟩
  · exact completed
  · rw [(Service.endsInTime_eq_false_iff ends task).mpr overdue] at inTime
    cases inTime

theorem Sound.cancelled (sound : Sound s mode ends c) (returned : c.hasReturned = true)
    (ran : s.group.isRunning task = true)
    (slow : ∀ time, ends task = some time → mode.patience.nanos < time.nanos) :
    c.group.outcome? task = some .cancelled := by
  rcases sound.ended returned ran with ⟨_, time, due, allowed⟩ | ⟨cancelled, _⟩
  · have := slow time due
    omega
  · exact cancelled

/-- A graceful close cancels nothing before it has waited for five seconds. -/
theorem Sound.cancelled_eq (sound : Sound s .graceful ends c)
    (early : c.now.nanos < closeTimeout.nanos) : c.group.cancelled = s.group.cancelled := by
  cases sound.phase with
  | draining _ _ _ _ cancelled => exact cancelled
  | drained _ _ _ _ _ cancelled => exact cancelled
  | forcing _ _ now =>
      rw [now] at early
      exact absurd early (Nat.lt_irrefl _)
  | forced _ _ past => exact absurd early (Nat.not_lt.mpr past)

theorem Sound.cancelled_of_immediate (sound : Sound s .immediate ends c) :
    c.group.cancelled = true := by
  cases sound.phase with
  | draining _ graceful => cases graceful
  | drained _ graceful => cases graceful
  | forcing _ _ _ cancelled => exact cancelled
  | forced _ _ _ cancelled => exact cancelled

theorem Sound.since_of_immediate (sound : Sound s .immediate ends c)
    (returned : c.hasReturned = true) : c.since = .zero := by
  cases sound.phase with
  | draining _ graceful => cases graceful
  | drained _ graceful => cases graceful
  | forcing stage => simp [hasReturned, stage] at returned
  | forced _ since => exact since

theorem Sound.of_all (sound : Sound s .graceful ends c) (returned : c.hasReturned = true)
    (all : s.group.running.all (Service.endsInTime ends) = true) :
    c.since = Service.lastEnd ends s.group.running ∧ c.group.cancelled = s.group.cancelled := by
  cases sound.phase with
  | draining stage => simp [hasReturned, stage] at returned
  | forcing stage => simp [hasReturned, stage] at returned
  | drained _ _ _ since _ cancelled => exact ⟨since, cancelled⟩
  | forced _ _ _ _ inVain =>
      obtain ⟨task, ran, slow⟩ := inVain rfl
      rw [List.all_eq_true.mp all task ((Group.mem_running _ _).mpr ran)] at slow
      cases slow

/-- A task that ends with the fifth second is waited for or cancelled, and either
way the close has waited for as long as it may. -/
theorem Sound.since_of_slow (sound : Sound s .graceful ends c) (returned : c.hasReturned = true)
    (ran : s.group.isRunning task = true) (slow : Service.endsInTime ends task = false) :
    c.since = closeTimeout := by
  cases sound.phase with
  | draining stage => simp [hasReturned, stage] at returned
  | forcing stage => simp [hasReturned, stage] at returned
  | drained _ _ completed since within _ =>
      have pending := (Service.endsInTime_eq_false_iff ends task).mp slow
      rcases sound.ended returned ran with ⟨_, time, due, _⟩ | ⟨cancelled, _⟩
      · have member := (Group.mem_running s.group task).mpr ran
        have last := Service.le_lastEnd member due
        rw [← since] at last
        have reached := Nat.le_trans (pending time due) last
        exact congrArg Duration.mk (Nat.le_antisymm within reached)
      · cases (completed task ran).symm.trans cancelled
  | forced _ since => exact since

/--
A close of an open service whose cancelled tasks have stopped, in any mode, with
tasks that end by themselves at any times.  It can come to what a close told as
a whole comes to.  Whatever steps it takes, it goes on for five seconds at most,
can return, takes no task in, has every outcome told once, and makes every other
close a call that returns at once.  When it has returned the group is terminated
and listens to nothing, and each task that ran has completed or was cancelled.

A graceful close cancels nothing before the five seconds are over.  Tasks that
end earlier complete, those that end later or never are cancelled; if all end
earlier it returns with the last of them and nothing is cancelled, otherwise at
the five seconds.  An immediate close cancels the group at once and returns in
no time.
-/
theorem outcomes_run {s : Service} (isOpen : s.closed = false) (settled : s.group.Settled)
    (mode : CloseMode) (ends : Nat → Option Duration) :
    (∃ last, Run ends (start s mode) last ∧ last.hasReturned = true ∧
      last.call.service = (s.close mode ends).service ∧
      last.since = (s.close mode ends).elapsed) ∧
    ∀ c, Run ends (start s mode) c →
      (c.hasReturned = false → c.now.nanos ≤ closeTimeout.nanos) ∧
      (∃ last, Run ends c last ∧ last.hasReturned = true) ∧
      c.group.tasks.length = s.group.tasks.length ∧
      (∀ later, Run ends c later → ∀ task outcome, c.group.outcome? task = some outcome →
        later.group.outcome? task = some outcome) ∧
      (∀ again, CloseCall.start c.call.service again = ⟨c.call.service, .returned⟩) ∧
      (c.hasReturned = true → c.group.isTerminated = true ∧ c.call.service.sockets = [] ∧
        ∀ task, s.group.isRunning task = true →
          c.group.outcome? task = some .completed ∨ c.group.outcome? task = some .cancelled) ∧
      (mode = .graceful →
        (c.now.nanos < closeTimeout.nanos → c.group.cancelled = s.group.cancelled) ∧
        (c.hasReturned = true →
          (∀ task, s.group.isRunning task = true →
            (Service.endsInTime ends task = true → c.group.outcome? task = some .completed) ∧
            ((∀ time, ends task = some time → closeTimeout.nanos < time.nanos) →
              c.group.outcome? task = some .cancelled)) ∧
          ((∀ task, s.group.isRunning task = true → Service.endsInTime ends task = true) →
            c.since = Service.lastEnd ends s.group.running ∧
              c.group.cancelled = s.group.cancelled) ∧
          ((∃ task, s.group.isRunning task = true ∧ Service.endsInTime ends task = false) →
            c.since = closeTimeout))) ∧
      (mode = .immediate →
        c.group.cancelled = true ∧
        (c.hasReturned = true → c.since = .zero ∧
          ∀ task, s.group.isRunning task = true → ends task ≠ some .zero →
            c.group.outcome? task = some .cancelled)) := by
  have begun := sound_start isOpen mode ends
  constructor
  · obtain ⟨last, returns⟩ := begun.exists_returns settled
    have agrees := (begun.run settled returns.run).agrees isOpen returns
    exact ⟨last, returns.run, returns.returned, agrees⟩
  · intro c run
    have sound := begun.run settled run
    refine ⟨sound.now_le, ?returns, sound.length, ?outcomes, ?again, ?ended, ?graceful, ?immediate⟩
    case returns =>
      obtain ⟨last, returns⟩ := sound.exists_returns settled
      exact ⟨last, returns.run, returns.returned⟩
    case outcomes =>
      intro later more task outcome ended
      exact more.outcome sound settled ended
    case again => exact CloseCall.start_of_closed sound.shutting.isClosed
    case ended =>
      intro returned
      refine ⟨sound.isTerminated returned, sound.sockets_eq returned, fun task ran => ?_⟩
      rcases sound.ended returned ran with ⟨completed, _⟩ | ⟨cancelled, _⟩
      · exact Or.inl completed
      · exact Or.inr cancelled
    case graceful =>
      rintro rfl
      refine ⟨sound.cancelled_eq, fun returned => ⟨fun task ran => ⟨?_, ?_⟩, ?_, ?_⟩⟩
      · exact sound.completed returned ran
      · exact sound.cancelled returned ran
      · intro all
        refine sound.of_all returned (List.all_eq_true.mpr fun task member => ?_)
        exact all task ((Group.mem_running _ _).mp member)
      · rintro ⟨task, ran, slow⟩
        exact sound.since_of_slow returned ran slow
    case immediate =>
      rintro rfl
      refine ⟨sound.cancelled_of_immediate, fun returned =>
        ⟨sound.since_of_immediate returned, fun task ran later => ?_⟩⟩
      refine sound.cancelled returned ran fun time due => ?_
      have positive : time.nanos ≠ 0 := by
        intro zero
        exact later (due.trans (congrArg some (congrArg Duration.mk zero)))
      exact Nat.pos_of_ne_zero positive

/-- An accept loop, a task of fifty milliseconds and one that never ends. -/
theorem outcomes_run_mixed :
    let s : Service :=
      { Service.new with
        group := { Group.new with tasks := [none, none, none] }
        loops := [⟨0, 0, .v4 127 0 0 1 830, false⟩]
        acceptors := [some 0] }
    let ends : Nat → Option Duration := fun task =>
      [some .zero, some (.ofMillis 50)][task]?.join
    s.closed = false ∧ s.group.Settled ∧
      ∃ last, Run ends (start s .graceful) last ∧ last.hasReturned = true ∧
        last.since = closeTimeout ∧ last.call.service.sockets = [] ∧
        last.group.tasks = [some .completed, some .completed, some .cancelled] := by
  intro s ends
  have isOpen : s.closed = false := rfl
  have settled : s.group.Settled := by
    intro asked
    cases asked
  obtain ⟨⟨last, run, returned, service, since⟩, every⟩ :=
    outcomes_run isOpen settled .graceful ends
  obtain ⟨_, _, _, _, _, after, _⟩ := every last run
  refine ⟨isOpen, settled, last, run, returned, since.trans rfl, (after returned).2.1, ?_⟩
  rw [group, service]
  rfl

end Countdown

end NetconfGate.Channel
