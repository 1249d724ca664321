import NetconfGate.Proofs.Secure.Keeper
import NetconfGate.Proofs.Server.Closedown
import NetconfGate.Server.Parting

/-!
# What a close leaves of the sessions

The task of a visit is one of its own, so the poll of one keeper leaves the
others alone, and the keepers can be followed one by one through a close. All of
them are over when it has returned. A session that was up by then has ended or
been told its time was over; else its client was told goodbye if the session had
the first turn, and is served on if the group had it.
-/

namespace NetconfGate.Server

open Channel

namespace Traffic

variable {t next : Traffic}

/-- The task that keeps the session of a visit. -/
def task? (t : Traffic) (number : Nat) : Option Nat :=
  t.visits[number]?.bind fun visit => visit.arrival.task

/-- Each visit has a task of its own, and none has the first task. -/
structure Attended (t : Traffic) : Prop where
  looped : 0 < t.service.group.tasks.length
  later : ∀ number task, t.task? number = some task → 0 < task
  inside : ∀ number task, t.task? number = some task → task < t.service.group.tasks.length
  own : ∀ one other task, t.task? one = some task → t.task? other = some task → one = other

theorem task?_setVisit {number : Nat} {visit changed : Visit}
    (held : t.visits[number]? = some visit) (same : changed.arrival = visit.arrival)
    (other : Nat) : (t.setVisit number changed).task? other = t.task? other := by
  unfold task? setVisit
  dsimp only
  by_cases at_ : other = number
  · subst at_
    have inside := (List.getElem?_eq_some_iff.mp held).1
    rw [List.getElem?_set_self inside, held]
    simp [same]
  · rw [List.getElem?_set_ne (Ne.symm at_)]

/-- Only a visit that arrives gets a task. -/
theorem Step.task? {event : Event} {told : List Observation} (step : t.Step event next told) :
    (∀ number, next.task? number = t.task? number) ∨
      ∃ loop, next.service = (t.service.accept loop).2 ∧
        next.visits = t.visits ++ [.new (t.service.accept loop).1] := by
  cases step with
  | unheard | refuses => exact Or.inl fun _ => rfl
  | @arrives loop => exact Or.inr ⟨loop, rfl, rfl⟩
  | identifies served => exact Or.inl (task?_setVisit (held_of_served served) rfl)
  | attempts heard => exact Or.inl (task?_setVisit (held_of_heard heard) rfl)
  | opens heard | closes heard =>
      exact Or.inl (task?_setVisit (held_of_heard (heard_of_loggedIn heard)) rfl)
  | dials heard answer shutdown =>
      have held := held_of_heard (heard_of_loggedIn heard)
      exact Or.inl (task?_setVisit (t := (t.dial _ _ _ answer shutdown).2) held rfl)
  | @starts number visit heard channel name answer shutdown claimed link service spawned =>
      have held := held_of_heard (heard_of_loggedIn heard)
      exact Or.inl (task?_setVisit
        (t := { (t.dial number channel visit answer shutdown).2 with service := service }) held rfl)
  | relays linked => exact Or.inl (task?_setVisit (held_of_linked linked).1 rfl)
  | @ends number index visit link changed linked =>
      exact Or.inl (task?_setVisit
        (t := { t with service := t.service.finish link.task .completed })
        (held_of_linked linked).1 rfl)
  | @leaves number visit stays =>
      have set : ∀ other, (t.setVisit number visit.leave).task? other = t.task? other :=
        task?_setVisit (held_of_present stays) rfl
      exact Or.inl set

theorem Attended.of_task? (attended : t.Attended)
    (same : ∀ number, next.task? number = t.task? number)
    (length : t.service.group.tasks.length ≤ next.service.group.tasks.length) :
    next.Attended where
  looped := Nat.lt_of_lt_of_le attended.looped length
  later := fun number task kept => attended.later number task ((same number).symm.trans kept)
  inside := fun number task kept =>
    Nat.lt_of_lt_of_le (attended.inside number task ((same number).symm.trans kept)) length
  own := fun one other task first second =>
    attended.own one other task ((same one).symm.trans first) ((same other).symm.trans second)

theorem task?_concat {visit : Visit} (visits : next.visits = t.visits ++ [visit])
    (number : Nat) :
    next.task? number = if number = t.visits.length then visit.arrival.task else t.task? number := by
  unfold task?
  rw [visits, List.getElem?_append]
  by_cases last : number = t.visits.length
  · subst last
    simp
  · rw [if_neg last]
    split
    · rfl
    · rw [List.getElem?_eq_none (by simp; omega), List.getElem?_eq_none (by omega)]

/-- A visit that arrives is given the next task, or none. -/
theorem Attended.arrives (attended : t.Attended) {loop : Loop}
    (service : next.service = (t.service.accept loop).2)
    (visits : next.visits = t.visits ++ [.new (t.service.accept loop).1]) :
    next.Attended := by
  obtain ⟨tasks, task, arrival, taken, how⟩ := t.service.accept_eq loop
  have grown : next.service.group.tasks = tasks := by
    rw [service, taken]
  have given (number : Nat) :
      next.task? number = if number = t.visits.length then task else t.task? number := by
    rw [task?_concat visits, arrival]
    rfl
  rcases how with ⟨rfl, rfl⟩ | ⟨rfl, rfl⟩
  · -- The connection was dropped, so no visit has a task that it had not.
    refine attended.of_task? (fun number => ?_) (Nat.le_of_eq (congrArg List.length grown.symm))
    rw [given]
    split
    · rename_i last
      simp [task?, last]
    · rfl
  · -- The new task comes after all that were handed out.
    have length : next.service.group.tasks.length = t.service.group.tasks.length + 1 := by
      rw [grown, List.length_append, List.length_singleton]
    refine ⟨by omega, ?later, ?inside, ?own⟩
    case later =>
      intro number found kept
      rw [given] at kept
      split at kept
      · cases kept
        exact attended.looped
      · exact attended.later number found kept
    case inside =>
      intro number found kept
      rw [given] at kept
      split at kept
      · cases kept
        omega
      · have before := attended.inside number found kept
        omega
    case own =>
      intro one other found first second
      rw [given] at first second
      split at first <;> split at second
      · omega
      · cases first
        have before := attended.inside other _ second
        omega
      · cases second
        have before := attended.inside one _ first
        omega
      · exact attended.own one other found first second

theorem Attended.step (attended : t.Attended) {event : Event} {told : List Observation}
    (step : t.Step event next told) : next.Attended := by
  rcases step.task? with same | ⟨loop, service, visits⟩
  · exact attended.of_task? same step.works.length
  · exact attended.arrives service visits

theorem Attended.works (attended : t.Attended) {service : Service}
    (works : t.service.Works service) : ({ t with service := service } : Traffic).Attended :=
  attended.of_task? (fun _ => rfl) works.length

theorem task?_lose (t : Traffic) (number : Nat) : t.lose.task? number = t.task? number := by
  unfold task? lose
  dsimp only
  rw [List.getElem?_map]
  cases t.visits[number]? <;> rfl

theorem Attended.lose (attended : t.Attended) : t.lose.Attended :=
  attended.of_task? t.task?_lose (Service.works_loseAll t.service).length

end Traffic

theorem invariant_attended (α : Type) :
    Bound.Invariant α fun b => b.traffic.Attended where
  begins := by
    intro config b begins
    have none_kept (number : Nat) : b.traffic.task? number = none := by
      simp [Traffic.task?, begins.visits]
    refine ⟨Group.lt_length_of_isRunning begins.listens.runs, ?_, ?_, ?_⟩
    · intro number task kept
      cases (none_kept number).symm.trans kept
    · intro number task kept
      cases (none_kept number).symm.trans kept
    · intro one other task kept
      cases (none_kept one).symm.trans kept
  serves := fun b event attended => attended.step (b.traffic.step_step event)
  ends := fun _ task outcome attended => attended.works (Service.works_finish _ task outcome)
  lost := fun _ attended => attended.lose

/-! ## How the visits stand -/

namespace Traffic

variable {t next : Traffic}

theorem task?_of_standing {number task : Nat} {runs up gone : Bool}
    (stands : t.standing? number = some ⟨some task, runs, up, gone⟩) :
    t.task? number = some task ∧ t.service.group.isRunning task = runs := by
  obtain ⟨visit, held, same⟩ := Option.map_eq_some_iff.mp stands
  injection same with kept served
  refine ⟨by simp [task?, held, kept], ?_⟩
  rw [← served]
  simp [isServed, kept]

/-- Visits stand as they stood when their tasks run as they ran. -/
theorem standing?_congr (visits : next.visits = t.visits) {number : Nat}
    (runs : ∀ task, t.task? number = some task →
      next.service.group.isRunning task = t.service.group.isRunning task) :
    next.standing? number = t.standing? number := by
  unfold standing?
  rw [visits]
  cases held : t.visits[number]? with
  | none => rfl
  | some visit =>
      cases kept : visit.arrival.task with
      | none => simp [isServed, kept]
      | some task =>
          have same := runs task (by simp [task?, held, kept])
          simp [isServed, kept, same]

/-- The end of a task is the end of no visit that has another one. -/
theorem standing?_finish_of_ne {number task : Nat} (other : t.task? number ≠ some task)
    (outcome : Outcome) :
    (t.onService fun service => service.finish task outcome).standing? number =
      t.standing? number := by
  have visits : (t.onService fun service => service.finish task outcome).visits = t.visits := rfl
  refine standing?_congr visits fun kept found => ?_
  have differ : kept ≠ task := by
    rintro rfl
    exact other found
  change (t.service.group.finish task outcome).isRunning kept = _
  rw [Group.isRunning_finish]
  simp [differ]

theorem standing?_finish {number task : Nat} {runs up gone : Bool}
    (stands : t.standing? number = some ⟨some task, runs, up, gone⟩) (outcome : Outcome) :
    (t.onService fun service => service.finish task outcome).standing? number =
      some ⟨some task, false, up, gone⟩ := by
  obtain ⟨visit, held, same⟩ := Option.map_eq_some_iff.mp stands
  injection same with kept _ isUp left
  refine Option.map_eq_some_iff.mpr ⟨visit, held, ?_⟩
  have ended : (t.onService fun service => service.finish task outcome).isServed visit = false := by
    rw [isServed, kept]
    change (t.service.group.finish task outcome).isRunning task = false
    rw [Group.isRunning_finish]
    simp
  rw [kept, isUp, left, ended]

/-- A session comes up only while its task runs, and no other visit is told. -/
theorem standing?_identifies (t : Traffic) (number other : Nat) :
    (t.step (.identifies number)).1.standing? other =
      (t.standing? other).map fun standing =>
        if other = number ∧ standing.runs = true then { standing with up := true }
        else standing := by
  cases served : t.served? number with
  | none =>
      simp only [step, served]
      cases stands : t.standing? other with
      | none => rfl
      | some standing =>
          rw [Option.map_some, if_neg]
          rintro ⟨rfl, runs⟩
          obtain ⟨visit, held, rfl⟩ := Option.map_eq_some_iff.mp stands
          simp [served?, held, show t.isServed visit = true from runs] at served
  | some visit =>
      obtain ⟨held, runs⟩ := Option.filter_eq_some_iff.mp served
      simp only [step, served, standing?, setVisit]
      by_cases same : other = number
      · subst same
        have inside := (List.getElem?_eq_some_iff.mp held).1
        rw [List.getElem?_set_self inside, held]
        simp only [isServed] at runs
        simp [isServed, runs]
      · rw [List.getElem?_set_ne (Ne.symm same)]
        cases t.visits[other]? <;> simp [same, isServed]

theorem standing?_hangUp (number other : Nat) :
    (t.hangUp number).standing? other =
      (t.standing? other).map fun standing =>
        if other = number then standing.leave else standing := by
  unfold standing? hangUp
  dsimp only
  rw [List.getElem?_modify]
  cases t.visits[other]? with
  | none => rfl
  | some visit =>
      by_cases same : other = number
      · subst same
        simp [isServed, Standing.leave]
      · simp [isServed, same, Ne.symm same]

theorem task?_hangUp (number other : Nat) : (t.hangUp number).task? other = t.task? other := by
  unfold task? hangUp
  dsimp only
  rw [List.getElem?_modify]
  cases t.visits[other]? with
  | none => rfl
  | some visit =>
      by_cases same : number = other
      · simp [same]
      · simp [same]

end Traffic

theorem Closedown.Step.attended {c later : Closedown} (step : c.Step later)
    (attended : c.traffic.Attended) : later.traffic.Attended := by
  cases step with
  | serves event => exact attended.step (c.traffic.step_step event)
  | ends task outcome => exact attended.works (Service.works_finish _ task outcome)
  | poolLost => exact attended.lose
  | joins =>
      refine attended.of_task? (fun _ => rfl) ?_
      exact Nat.le_of_eq (congrArg List.length (c.traffic.service.tasks_beginClose .immediate)).symm
  | @resumes joined close =>
      have same : ((⟨c.traffic.service, close⟩ : CloseCall).resume false).service =
          c.traffic.service := CloseCall.service_resume _ false
      refine attended.of_task? (fun _ => rfl) ?_
      exact Nat.le_of_eq (congrArg (fun service => service.group.tasks.length) same).symm

theorem Closedown.Run.attended {c later : Closedown} (run : c.Run later)
    (attended : c.traffic.Attended) : later.traffic.Attended := by
  induction run with
  | refl => exact attended
  | tail _ step ih => exact step.attended ih

namespace Parting

variable {turns : Nat → Secure.Turn} {p next : Parting} {b : Bound}

theorem keepers_identify (p : Parting) (number : Nat) (f : Secure.Keeper.Findings) :
    (p.identify number f).keepers = p.keepers := by
  unfold identify
  split <;> rfl

theorem identify_of_waiting (number : Nat) {f : Secure.Keeper.Findings}
    (waits : f.setUp = none) : p.identify number f = p := by
  have nothing : (p.keepers number).takes? f = none := by
    rw [Secure.Keeper.takes?, waits, ite_self]
  rw [identify, nothing, if_neg nofun]

/-- That a session comes up is a step of the close. -/
theorem step_identify (p : Parting) (number : Nat) (f : Secure.Keeper.Findings) :
    (p.identify number f).closing = p.closing ∨
      p.closing.Step (p.identify number f).closing := by
  unfold identify
  split
  · exact Or.inr (.serves (.identifies number))
  · exact Or.inl rfl

/-- A session that is up stays up, and no other comes up by it. -/
theorem standing?_identify (number : Nat) {other : Nat} {standing : Standing}
    (stands : p.standing? other = some standing)
    (kept : other = number → standing.up = true) (f : Secure.Keeper.Findings) :
    (p.identify number f).standing? other = some standing := by
  unfold identify
  split
  · change (p.closing.traffic.step (.identifies number)).1.standing? other = _
    rw [Traffic.standing?_identifies, show p.closing.traffic.standing? other = _ from stands,
      Option.map_some]
    split
    · rename_i taken
      rw [← kept taken.1]
    · rfl
  · exact stands

theorem isCancelled_identify (p : Parting) (number : Nat) (f : Secure.Keeper.Findings) :
    (p.identify number f).isCancelled = p.isCancelled := by
  unfold identify
  split
  · exact (p.closing.traffic.step_step (.identifies number)).works.cancelled
  · rfl

/-- A poll ends the task of a keeper that is over then, and no other. -/
theorem poll_eq (p : Parting) (number task : Nat) (f : Secure.Keeper.Findings) :
    (((p.keepers number).poll f).stage = .finished ∧
      ∃ outcome, (outcome = .cancelled → f.cancelled = true) ∧ (p.poll number task f).closing =
        (p.identify number f).closing.onService fun service => service.finish task outcome) ∨
      (((p.keepers number).poll f).stage ≠ .finished ∧
        (p.poll number task f).closing = (p.identify number f).closing) := by
  unfold poll
  dsimp only
  split
  · rename_i finished
    refine Or.inl ⟨finished, _, ?_, rfl⟩
    cases f.cancelled <;> simp
  · rename_i still
    exact Or.inr ⟨still, rfl⟩

theorem keepers_poll (p : Parting) (number task : Nat) (f : Secure.Keeper.Findings)
    (other : Nat) :
    (p.poll number task f).keepers other =
      if other = number then (p.keepers number).poll f else p.keepers other := by
  have same := congrFun (p.keepers_identify number f) other
  unfold poll
  dsimp only
  split <;> simp only [setKeeper, same]

/-- To the close a poll is a session that comes up and a task that ends. -/
theorem run_poll {number task : Nat} {f : Secure.Keeper.Findings}
    (cancelled : f.cancelled = p.isCancelled) :
    p.closing.Run (p.poll number task f).closing := by
  have identified : p.closing.Run (p.identify number f).closing := by
    rcases p.step_identify number f with same | step
    · rw [same]
      exact .refl _
    · exact (Closedown.Run.refl _).tail step
  rcases p.poll_eq number task f with ⟨_, outcome, asked, ended⟩ | ⟨_, same⟩
  · rw [ended]
    refine identified.tail (.ends task outcome fun stopped => ?_)
    exact (p.isCancelled_identify number f).trans (cancelled.symm.trans (asked stopped))
  · rw [same]
    exact identified

theorem Step.attended (step : p.Step turns next) (attended : p.closing.traffic.Attended) :
    next.closing.traffic.Attended := by
  cases step with
  | closes step => exact step.attended attended
  | hangsUp number =>
      exact attended.of_task? (Traffic.task?_hangUp number) (Nat.le_refl _)
  | polls stands f cancelled => exact (run_poll cancelled).attended attended

/-- What is known of the close is known whatever its sessions do. -/
theorem Step.phase (step : p.Step turns next) (phase : Closedown.Phase b p.closing) :
    Closedown.Phase b next.closing := by
  cases step with
  | closes step => exact phase.step step
  | hangsUp number => exact phase.works (.refl _) rfl
  | polls stands f cancelled => exact phase.run (run_poll cancelled)

/-- How a visit stands that is followed from when its session was up. -/
structure Follows (p : Parting) (turn : Secure.Turn) (deadline : Bool) (number task : Nat)
    (gone : Bool) : Prop where
  stands : p.standing? number =
    some ⟨some task, decide ((p.keepers number).stage ≠ .finished), true, gone⟩
  fares : (p.keepers number).Fares turn deadline gone

/-- The keeper that is followed is polled, and so is its task. -/
theorem Follows.polled {turn : Secure.Turn} {deadline gone : Bool} {number task : Nat}
    (follows : p.Follows turn deadline number task gone) {f : Secure.Keeper.Findings}
    (same : f.turn = turn) (sees : f.ended = gone)
    (runs : (p.keepers number).stage ≠ .finished) :
    (p.poll number task f).Follows turn deadline number task gone := by
  obtain ⟨stands, fares⟩ := follows
  have keeper : (p.poll number task f).keepers number = (p.keepers number).poll f := by
    rw [keepers_poll, if_pos rfl]
  refine ⟨?_, keeper ▸ fares.poll same sees⟩
  have identified := standing?_identify number stands (fun _ => rfl) f
  rw [keeper, standing?]
  rcases p.poll_eq number task f with ⟨finished, outcome, _, ended⟩ | ⟨still, unmoved⟩
  · rw [ended, finished]
    exact Traffic.standing?_finish identified outcome
  · rw [unmoved, decide_eq_true still]
    rw [decide_eq_true runs] at identified
    exact identified

/-- The keeper of another visit is polled, which has a task of its own. -/
theorem Follows.aside {turn : Secure.Turn} {deadline gone : Bool} {number task other kept : Nat}
    (follows : p.Follows turn deadline number task gone) (differ : number ≠ other)
    (apart : kept ≠ task) (f : Secure.Keeper.Findings) :
    (p.poll other kept f).Follows turn deadline number task gone := by
  obtain ⟨stands, fares⟩ := follows
  have keeper : (p.poll other kept f).keepers number = p.keepers number := by
    rw [keepers_poll, if_neg differ]
  have identified := standing?_identify other stands (fun same => absurd same differ) f
  refine ⟨?_, keeper ▸ fares⟩
  rw [keeper, ← identified, standing?, standing?]
  rcases p.poll_eq other kept f with ⟨_, outcome, _, ended⟩ | ⟨_, unmoved⟩
  · rw [ended]
    refine Traffic.standing?_finish_of_ne ?_ outcome
    rw [(Traffic.task?_of_standing identified).1]
    exact fun same => apart (Option.some.inj same).symm
  · rw [unmoved]

theorem Follows.step {deadline gone : Bool} {number task : Nat}
    (follows : p.Follows (turns number) deadline number task gone)
    (attended : p.closing.traffic.Attended) (step : p.Step turns next) :
    ∃ gone, next.Follows (turns number) deadline number task gone := by
  cases step with
  | closes step stand =>
      rcases stand number _ follows.stands with same | left
      · exact ⟨gone, same, follows.fares⟩
      · exact ⟨true, left, follows.fares.hangsUp⟩
  | hangsUp other =>
      have after := Traffic.standing?_hangUp (t := p.closing.traffic) other number
      rw [show p.closing.traffic.standing? number = _ from follows.stands, Option.map_some] at after
      by_cases same : number = other
      · rw [if_pos same] at after
        exact ⟨true, after, follows.fares.hangsUp⟩
      · rw [if_neg same] at after
        exact ⟨gone, after, follows.fares⟩
  | @polls other kept up left found f cancelled turn ended =>
      refine ⟨gone, ?_⟩
      by_cases same : number = other
      · subst same
        have agree := Option.some.inj (follows.stands.symm.trans found)
        injection agree with task_ runs_ _ gone_
        cases Option.some.inj task_
        exact follows.polled turn (ended.trans gone_.symm) (of_decide_eq_true runs_)
      · refine follows.aside same ?_ f
        rintro rfl
        have first := (Traffic.task?_of_standing follows.stands).1
        have second := (Traffic.task?_of_standing found).1
        exact same (attended.own number other kept first second)

/-- What a run of a close keeps: the tasks of the visits, what is known of the
close, and how a visit fares that is followed. -/
theorem Run.attended (run : Run turns p next) (attended : p.closing.traffic.Attended) :
    next.closing.traffic.Attended := by
  induction run with
  | refl => exact attended
  | tail _ step ih => exact step.attended ih

theorem Run.phase (run : Run turns p next) (phase : Closedown.Phase b p.closing) :
    Closedown.Phase b next.closing := by
  induction run with
  | refl => exact phase
  | tail _ step ih => exact step.phase ih

theorem Follows.run {deadline gone : Bool} {number task : Nat}
    (follows : p.Follows (turns number) deadline number task gone)
    (attended : p.closing.traffic.Attended) (run : Run turns p next) :
    ∃ gone, next.Follows (turns number) deadline number task gone := by
  induction run with
  | refl => exact ⟨gone, follows⟩
  | tail run step ih =>
      obtain ⟨gone, follows⟩ := ih
      exact follows.step (run.attended attended) step

theorem IsUp.follows {number : Nat} {deadline : Bool} (isUp : p.IsUp number deadline)
    (turn : Secure.Turn) : ∃ task, p.Follows turn deadline number task false := by
  obtain ⟨⟨task, stands⟩, watches⟩ := isUp
  refine ⟨task, ?_, ?_⟩
  · rw [stands, watches]
    rfl
  · rw [watches]
    exact .watches rfl fun held => held

variable {turn : Secure.Turn} {deadline gone : Bool} {number task : Nat}

/-- A keeper whose task does not run is over. -/
theorem Follows.finished (follows : p.Follows turn deadline number task gone)
    (still : p.closing.traffic.service.group.isRunning task = false) :
    (p.keepers number).stage = .finished := by
  have runs := (Traffic.task?_of_standing follows.stands).2
  rw [still] at runs
  exact not_not.mp (of_decide_eq_false runs.symm)

theorem Follows.isServed_eq (follows : p.Follows turn deadline number task gone) :
    p.isServed number = (!gone && (p.keepers number).told.isNone) := by
  obtain ⟨visit, held, same⟩ := Option.map_eq_some_iff.mp follows.stands
  injection same with _ _ isUp left
  simp only [isServed, Traffic.heard?, held, Option.filter, isUp, left]
  cases gone <;> rfl

theorem Follows.farewell (follows : p.Follows turn deadline number task gone)
    (finished : (p.keepers number).stage = .finished) :
    p.hasGone number = true ∨
      ((p.keepers number).told = some Secure.tooLate ∧ deadline = true) ∨
      p.farewell number = Secure.farewell turn := by
  cases left : gone with
  | true =>
      refine Or.inl ?_
      rw [hasGone, follows.stands, left]
      rfl
  | false =>
      rcases follows.fares.of_finished finished with ended | late | same
      · cases left.symm.trans ended
      · exact Or.inr (Or.inl late)
      · refine Or.inr (Or.inr ?_)
        rw [same, Parting.farewell, follows.isServed_eq, left]
        rfl

/-! ## A close that returns -/

/-- No visit has changed, and nobody has come to be late. -/
structure Calm (p later : Parting) : Prop where
  visits : later.closing.traffic.visits = p.closing.traffic.visits
  inTime : ∀ number, (later.keepers number).told = some Secure.tooLate →
    (p.keepers number).told = some Secure.tooLate

theorem Calm.hasGone_eq {later : Parting} (calm : p.Calm later) (number : Nat) :
    later.hasGone number = p.hasGone number := by
  unfold hasGone standing? Traffic.standing?
  rw [calm.visits]
  cases p.closing.traffic.visits[number]? <;> rfl

/-- A keeper that is polled in time makes no one late, and brings no session up as
long as its setup waits. -/
theorem calm_poll {f : Secure.Keeper.Findings} (inTime : f.late = false) (waits : f.setUp = none)
    (number task : Nat) : p.Calm (p.poll number task f) := by
  refine ⟨?_, fun other late => ?_⟩
  · have moved := p.poll_eq number task f
    rw [identify_of_waiting number waits] at moved
    rcases moved with ⟨_, outcome, _, ended⟩ | ⟨_, same⟩
    · rw [ended]
      rfl
    · rw [same]
  · rw [keepers_poll] at late
    split at late
    · rename_i same
      subst same
      rcases Secure.Keeper.told_poll_of_inTime inTime (p.keepers other) with kept | said
      · exact kept.symm.trans late
      · exact absurd (said.symm.trans late) (by decide)
    · exact late

theorem Calm.trans {first middle last : Parting} (one : first.Calm middle)
    (two : middle.Calm last) : first.Calm last :=
  ⟨two.visits.trans one.visits, fun number late => one.inTime number (two.inTime number late)⟩

theorem Run.trans {first middle last : Parting} (one : Run turns first middle)
    (two : Run turns middle last) : Run turns first last := by
  induction two with
  | refl => exact one
  | tail _ step ih => exact ih.tail step

/-- What a keeper finds when it is asked to stop and there is nothing else, but
perhaps the end of its session. -/
def asked (turn : Secure.Turn) (ended : Bool) : Secure.Keeper.Findings :=
  ⟨turn, true, none, .group, ended, false, false, false, false⟩

/-- A cancelled task can stop, whether it keeps a session or not. -/
theorem exists_stop (turns : Nat → Secure.Turn)
    (cancelled : p.closing.traffic.service.group.cancelled = true)
    (runs : p.closing.traffic.service.group.isRunning task = true) :
    ∃ next, p.Step turns next ∧ p.Calm next ∧ ∃ outcome,
      next.closing = p.closing.onService fun service => service.finish task outcome := by
  by_cases keeps : ∃ number, p.closing.traffic.task? number = some task
  · obtain ⟨number, kept⟩ := keeps
    obtain ⟨visit, held, arrived⟩ := Option.bind_eq_some_iff.mp kept
    have stands : p.standing? number = some ⟨some task, true, visit.up, visit.gone⟩ := by
      simp [standing?, Traffic.standing?, held, arrived, Traffic.isServed, runs]
    let f := asked (turns number) visit.gone
    have finished : ((p.keepers number).poll f).stage = .finished :=
      Secure.Keeper.stage_poll_of_cancelled rfl _
    obtain ⟨outcome, ended⟩ : ∃ outcome, (p.poll number task f).closing =
        p.closing.onService fun service => service.finish task outcome := by
      have moved := p.poll_eq number task f
      rw [identify_of_waiting number rfl] at moved
      rcases moved with ⟨_, outcome, _, ended⟩ | ⟨still, _⟩
      · exact ⟨outcome, ended⟩
      · exact absurd finished still
    exact ⟨_, .polls stands f cancelled.symm rfl rfl, calm_poll rfl rfl number task, outcome, ended⟩
  · refine ⟨_, .closes (.ends task .cancelled fun _ => cancelled) ?_, ⟨rfl, fun _ late => late⟩,
      .cancelled, rfl⟩
    intro number standing stands
    rw [← stands]
    exact Or.inl (Traffic.standing?_finish_of_ne (fun kept => keeps ⟨number, kept⟩) .cancelled)

/-- By induction on the number of tasks that run: they stop one after the other,
and when none is left the close returns. -/
theorem exists_returned (turns : Nat → Secure.Turn) {joined : Except Channel.Error Unit}
    (stage : p.closing.stage = .releasing joined .forcing)
    (stopping : p.closing.traffic.service.Stopping) :
    ∃ last result, Run turns p last ∧ last.closing.result? = some result ∧ p.Calm last := by
  induction active : p.closing.traffic.service.group.active using Nat.strongRecOn
    generalizing p with
  | _ active ih =>
      subst active
      cases terminated : p.closing.traffic.service.group.isTerminated with
      | true =>
          have resumed : (⟨p.closing.traffic.service, .forcing⟩ : CloseCall).resume false =
              ⟨p.closing.traffic.service, .returned⟩ := by
            simp [CloseCall.resume, terminated]
          have step := Closedown.Step.resumes stage
          rw [resumed] at step
          exact ⟨_, _, .tail (.refl p) (.closes step fun _ _ stands => Or.inl stands), rfl,
            ⟨rfl, fun _ late => late⟩⟩
      | false =>
          obtain ⟨task, runs⟩ := Group.exists_running stopping.shutting.isSealed terminated
          obtain ⟨next, step, calm, outcome, ended⟩ := exists_stop turns stopping.asked runs
          have fewer : next.closing.traffic.service.group.active <
              p.closing.traffic.service.group.active := by
            rw [ended]
            exact Group.active_finish runs outcome
          have at_ : next.closing.stage = .releasing joined .forcing := by
            rw [ended]
            exact stage
          have stops : next.closing.traffic.service.Stopping := by
            rw [ended]
            exact stopping.works (Service.works_finish _ task outcome)
          obtain ⟨last, result, run, told, calmly⟩ := ih _ fewer at_ stops rfl
          exact ⟨last, result, ((Run.refl p).tail step).trans run, told, calm.trans calmly⟩

/-- The loop stops as it is told, which is the end of no visit, and the group is
cancelled. -/
theorem exists_released (turns : Nat → Secure.Turn) (owns : b.Owns)
    (attended : b.traffic.Attended) (keepers : Nat → Secure.Keeper) :
    ∃ joined next, Run turns (start b keepers) next ∧
      next.closing.stage = .releasing joined .forcing ∧
      next.closing.traffic.service.Stopping ∧ (start b keepers).Calm next := by
  have begun := Closedown.start_eq owns
  let first := (Closedown.start b).onService fun service => service.finish 0 .completed
  have stops : (start b keepers).Step turns ⟨first, keepers⟩ := by
    refine .closes (.ends 0 .completed nofun) fun number standing stands => Or.inl ?_
    rw [← stands]
    refine Traffic.standing?_finish_of_ne (fun kept => ?_) .completed
    have given : b.traffic.task? number = some 0 := by
      rw [begun] at kept
      exact kept
    exact Nat.lt_irrefl 0 (attended.later number 0 given)
  have stage : first.stage = .joining (Closedown.loopOf b) := by
    change (Closedown.start b).stage = _
    rw [begun]
  have isOpen : first.traffic.service.closed = false := by
    change (Closedown.start b).traffic.service.closed = false
    rw [begun]
    exact owns.isOpen
  have ended : first.traffic.service.group.isRunning (Closedown.loopOf b).task = false := by
    change ((Closedown.start b).traffic.service.group.finish 0 .completed).isRunning 0 = false
    rw [Group.isRunning_finish]
    simp
  have joins := Closedown.Step.joins stage ended
  rw [Closedown.release_eq isOpen] at joins
  refine ⟨_, ⟨_, keepers⟩, ((Run.refl _).tail stops).tail (.closes joins ?_), rfl,
    Closedown.stopping_beginClose isOpen, rfl, fun _ late => late⟩
  let released := first.traffic.onService fun service => service.beginClose .immediate
  have visits : released.visits = first.traffic.visits := rfl
  intro number standing stands
  rw [← stands]
  refine Or.inl (Traffic.standing?_congr visits fun task _ => ?_)
  change (first.traffic.service.beginClose .immediate).group.isRunning task = _
  simp only [Group.isRunning, first.traffic.service.tasks_beginClose .immediate]

theorem start_returns (turns : Nat → Secure.Turn) (owns : b.Owns) (attended : b.traffic.Attended)
    (keepers : Nat → Secure.Keeper) :
    ∃ last result, Run turns (start b keepers) last ∧ last.closing.result? = some result ∧
      (start b keepers).Calm last := by
  obtain ⟨joined, next, run, stage, stopping, calm⟩ := exists_released turns owns attended keepers
  obtain ⟨last, result, rest, told, calmly⟩ := exists_returned turns stage stopping
  exact ⟨last, result, run.trans rest, told, calm.trans calmly⟩

theorem attended_start (owns : b.Owns) (attended : b.traffic.Attended)
    (keepers : Nat → Secure.Keeper) : (start b keepers).closing.traffic.Attended := by
  change (Closedown.start b).traffic.Attended
  rw [Closedown.start_eq owns]
  exact attended.of_task? (fun _ => rfl) (Nat.le_refl _)

/-- When the close has returned, the keeper of a session that was up is over. -/
theorem Run.exists_finished {keepers : Nat → Secure.Keeper} (run : Run turns (start b keepers) p)
    (owns : b.Owns) (attended : b.traffic.Attended) {result : Except Error Unit}
    (told : p.closing.result? = some result) (isUp : (start b keepers).IsUp number deadline) :
    ∃ task gone, p.Follows (turns number) deadline number task gone ∧
      (p.keepers number).stage = .finished := by
  obtain ⟨task, follows⟩ := isUp.follows (turns number)
  obtain ⟨gone, after⟩ := follows.run (attended_start owns attended keepers) run
  have phase := run.phase (p := start b keepers) (Closedown.phase_start owns)
  obtain ⟨isOver, _⟩ := phase.of_result told
  exact ⟨task, gone, after, after.finished (isOver.still task)⟩

/-- The close can return with all visits as they were, and then every session that
was up is left with what its turn leaves it with. -/
theorem exists_farewells (turns : Nat → Secure.Turn) (owns : b.Owns)
    (attended : b.traffic.Attended) (keepers : Nat → Secure.Keeper) :
    ∃ last result, Run turns (start b keepers) last ∧ last.closing.result? = some result ∧
      last.closing.traffic.visits = b.traffic.visits ∧
      ∀ number deadline, (start b keepers).IsUp number deadline →
        last.farewell number = Secure.farewell (turns number) := by
  obtain ⟨last, result, run, told, calm⟩ := start_returns turns owns attended keepers
  have visits : (start b keepers).closing.traffic.visits = b.traffic.visits := by
    change (Closedown.start b).traffic.visits = _
    rw [Closedown.start_eq owns]
    rfl
  refine ⟨last, result, run, told, calm.visits.trans visits, fun number deadline isUp => ?_⟩
  obtain ⟨task, gone, follows, finished⟩ := run.exists_finished owns attended told isUp
  rcases follows.farewell finished with left | ⟨late, _⟩ | same
  · obtain ⟨_, stands⟩ := isUp.stands
    rw [calm.hasGone_eq, hasGone, stands] at left
    cases left
  · have before := calm.inTime number late
    rw [isUp.watches] at before
    cases before
  · exact same

end Parting

variable {α : Type}

/--
The sessions of a bound server, whatever it met with, when it is closed.  For
each of them it is settled whose turn is first, and they may hang up or come to
be late meanwhile.

Whatever the turns are, the close can return with all visits as they were, and
then every session that was up is left with what its turn leaves it with: told
goodbye if it was the session's, and served on without a word if it was the
group's.

However the close goes, when it has returned the keeper of such a session is
over.  The session has hung up, or was told that its time was over, or is left in
the same way; only one that had the first turn is told goodbye.
-/
theorem farewells_run (policy : CipherPolicy) (incidents : List (Incident α)) {b : Bound}
    (bound : ((new policy).live incidents).lifecycle = .bound b)
    (keepers : Nat → Secure.Keeper) (turns : Nat → Secure.Turn) :
    let first := Parting.start b keepers
    (∃ last result, Parting.Run turns first last ∧ last.closing.result? = some result ∧
      last.closing.traffic.visits = b.traffic.visits ∧
      ∀ number deadline, first.IsUp number deadline →
        last.farewell number = Secure.farewell (turns number)) ∧
    ∀ p result, Parting.Run turns first p → p.closing.result? = some result →
      ∀ number deadline, first.IsUp number deadline →
        (p.keepers number).stage = .finished ∧
        ((p.keepers number).told = some Secure.goodbye → turns number = .session) ∧
        (p.hasGone number = true ∨
          ((p.keepers number).told = some Secure.tooLate ∧ deadline = true) ∨
          p.farewell number = Secure.farewell (turns number)) := by
  intro first
  have owns : b.Owns := (invariant_owns α).live policy incidents bound
  have attended : b.traffic.Attended := (invariant_attended α).live policy incidents bound
  refine ⟨Parting.exists_farewells turns owns attended keepers, ?_⟩
  intro p result run told number deadline isUp
  obtain ⟨task, gone, follows, finished⟩ := run.exists_finished owns attended told isUp
  exact ⟨finished, follows.fares.turn_of_told, follows.farewell finished⟩

/-- A client who has logged in is told goodbye if its session has the first turn. -/
theorem farewells_run_of_client :
    let config : Configuration Unit HostKey.Source :=
      ⟨.localhost 2022, .localhost 830, (), .memory [⟨.ed25519 [], [], ""⟩],
        ⟨.ofSeconds 600, .ofSeconds 600, .ofSeconds 10⟩⟩
    let around : Surroundings :=
      ⟨.empty, 0, [], .multiThreaded, [], fun _ => .ok (), fun address _ => .opened address⟩
    let incidents : List (Incident Unit) :=
      [.call (.bind config around), .call (.traffic (.arrives ⟨0, 0, .localhost 2022, false⟩)),
        .call (.traffic (.identifies 0)), .call (.traffic (.attempts 0 true))]
    let keepers : Nat → Secure.Keeper := fun _ => ⟨.watching false, none⟩
    ∃ b, ((new .default).live incidents).lifecycle = .bound b ∧
      (Parting.start b keepers).IsUp 0 false ∧
      ∃ last result, Parting.Run (fun _ => .session) (Parting.start b keepers) last ∧
        last.closing.result? = some result ∧
        (last.keepers 0).told = some Secure.goodbye ∧ last.isServed 0 = false := by
  intro config around incidents keepers
  have stands : (((new .default).live incidents).bound?.bind fun b =>
      (Parting.start b keepers).standing? 0) = some ⟨some 1, true, true, false⟩ := by
    decide +kernel
  obtain ⟨b, bound⟩ : ∃ b, ((new .default).live incidents).lifecycle = .bound b := ⟨_, rfl⟩
  rw [bound?, bound] at stands
  have isUp : (Parting.start b keepers).IsUp 0 false := ⟨⟨1, stands⟩, rfl⟩
  obtain ⟨⟨last, result, run, told, _, every⟩, _⟩ :=
    farewells_run .default incidents bound keepers fun _ => .session
  have left := every 0 false isUp
  injection left with goodbye served
  exact ⟨b, bound, isUp, last, result, run, told, of_decide_eq_true goodbye, served⟩

/-- A client who has logged in is told nothing if the group has the first turn, and
opens channels at a server that is closed. -/
theorem farewells_run_dropped :
    let config : Configuration Unit HostKey.Source :=
      ⟨.localhost 2022, .localhost 830, (), .memory [⟨.ed25519 [], [], ""⟩],
        ⟨.ofSeconds 600, .ofSeconds 600, .ofSeconds 10⟩⟩
    let around : Surroundings :=
      ⟨.empty, 0, [], .multiThreaded, [], fun _ => .ok (), fun address _ => .opened address⟩
    let incidents : List (Incident Unit) :=
      [.call (.bind config around), .call (.traffic (.arrives ⟨0, 0, .localhost 2022, false⟩)),
        .call (.traffic (.identifies 0)), .call (.traffic (.attempts 0 true))]
    let keepers : Nat → Secure.Keeper := fun _ => ⟨.watching false, none⟩
    let s := (new .default).live incidents
    ∃ b, s.lifecycle = .bound b ∧ (Parting.start b keepers).IsUp 0 false ∧
      ∃ last result, Parting.Run (fun _ => .group) (Parting.start b keepers) last ∧
        last.closing.result? = some result ∧
        (last.keepers 0).told ≠ some Secure.goodbye ∧ last.isServed 0 = true ∧
        ((last.closing.server s).onEvent (.opens 0 0)).2 = [.opened 0] := by
  intro config around incidents keepers s
  have stands : (s.bound?.bind fun b => (Parting.start b keepers).standing? 0) =
      some ⟨some 1, true, true, false⟩ := by
    decide +kernel
  have enters : (s.bound?.bind fun b => b.traffic.loggedIn? 0).isSome = true := by
    decide +kernel
  obtain ⟨b, bound⟩ : ∃ b, s.lifecycle = .bound b := ⟨_, rfl⟩
  rw [bound?, bound] at stands enters
  have isUp : (Parting.start b keepers).IsUp 0 false := ⟨⟨1, stands⟩, rfl⟩
  have owns : b.Owns := (invariant_owns Unit).live .default incidents bound
  have attended : b.traffic.Attended := (invariant_attended Unit).live .default incidents bound
  obtain ⟨last, result, run, told, visits, every⟩ :=
    Parting.exists_farewells (fun _ => .group) owns attended keepers
  have left := every 0 false isUp
  injection left with goodbye served
  have same : last.closing.traffic.loggedIn? 0 = b.traffic.loggedIn? 0 := by
    simp only [Traffic.loggedIn?, Traffic.heard?, visits]
  obtain ⟨visit, entered⟩ := Option.isSome_iff_exists.mp enters
  have opens : ((last.closing.server s).onEvent (.opens 0 0)).2 = [.opened 0] := by
    simp only [onEvent, Closedown.server, Traffic.step, same.trans entered]
  exact ⟨b, bound, isUp, last, result, run, told, of_decide_eq_false goodbye, served, opens⟩

end NetconfGate.Server
