import NetconfGate.Proofs.Channel.Shutdown
import NetconfGate.Proofs.Server.Lifecycle
import NetconfGate.Server.Closedown

/-!
# What a close leaves of a bound server

Whatever a server meets with while it is bound, it owns an open service with one
accept loop, which may have come to an end of any kind. A close waits for that
end, keeps it, and goes on to close the service whatever it was. So all that tasks
of the group hold is let go in any case, and the end of the loop decides only what
the close returns. A session that is up is not served by such a task, and keeps the
connection of its client.
-/

namespace NetconfGate

open Channel

/-- What the work of a service keeps: all signals, the loops, and the outcomes. A
group that drains gets no tasks by it. -/
structure Channel.Service.Works (s later : Service) : Prop where
  closed : later.closed = s.closed
  loops : later.loops = s.loops
  acceptors : later.acceptors = s.acceptors
  draining : later.group.draining = s.group.draining
  isSealed : later.group.sealed = s.group.sealed
  cancelled : later.group.cancelled = s.group.cancelled
  length : s.group.tasks.length ≤ later.group.tasks.length
  outcomes : ∀ task outcome, s.group.outcome? task = some outcome →
    later.group.outcome? task = some outcome
  admits : s.group.draining = true → ∀ task, later.group.isRunning task = true →
    s.group.isRunning task = true

/-- Closed, and everybody in it was asked to stop. -/
structure Channel.Service.Stopping (s : Service) : Prop where
  shutting : s.Shutting
  asked : s.group.cancelled = true

namespace Channel.Service

theorem Works.refl (s : Service) : s.Works s :=
  ⟨rfl, rfl, rfl, rfl, rfl, rfl, Nat.le_refl _, fun _ _ told => told, fun _ _ runs => runs⟩

theorem Works.trans {first middle last : Service} (one : first.Works middle)
    (two : middle.Works last) : first.Works last where
  closed := two.closed.trans one.closed
  loops := two.loops.trans one.loops
  acceptors := two.acceptors.trans one.acceptors
  draining := two.draining.trans one.draining
  isSealed := two.isSealed.trans one.isSealed
  cancelled := two.cancelled.trans one.cancelled
  length := Nat.le_trans one.length two.length
  outcomes := fun task outcome told => two.outcomes task outcome (one.outcomes task outcome told)
  admits := fun drains task runs =>
    one.admits drains task (two.admits (one.draining.trans drains) task runs)

/-- Tasks are added to a group that does not drain. -/
theorem Works.of_tasks {s later : Service} (closed : later.closed = s.closed)
    (loops : later.loops = s.loops) (acceptors : later.acceptors = s.acceptors)
    (tasks : List (Option Outcome)) (tokens : List Bool)
    (group : later.group = { s.group with tasks := s.group.tasks ++ tasks, tokens := tokens })
    (admits : s.group.draining = true → tasks = []) : s.Works later := by
  refine ⟨closed, loops, acceptors, by rw [group], by rw [group], by rw [group], ?_, ?_, ?_⟩
  · rw [group]
    simp
  · intro task outcome told
    have found := Option.join_eq_some_iff.mp told
    have inside := (List.getElem?_eq_some_iff.mp found).1
    rw [group]
    refine Option.join_eq_some_iff.mpr ?_
    rw [List.getElem?_append_left inside]
    exact found
  · intro drains task runs
    rw [group, admits drains] at runs
    simpa [Group.isRunning] using runs

theorem Stopping.works {s later : Service} (stopping : s.Stopping) (works : s.Works later) :
    later.Stopping :=
  ⟨⟨works.closed.trans stopping.shutting.isClosed, works.draining.trans stopping.shutting.drains,
    works.isSealed.trans stopping.shutting.isSealed⟩, works.cancelled.trans stopping.asked⟩

theorem Works.still {s later : Service} (works : s.Works later) (drains : s.group.draining = true)
    (still : ∀ task, s.group.isRunning task = false) (task : Nat) :
    later.group.isRunning task = false := by
  refine Bool.eq_false_iff.mpr fun runs => ?_
  have before := works.admits drains task runs
  rw [still task] at before
  cases before

theorem works_finish (s : Service) (task : Nat) (outcome : Outcome) :
    s.Works (s.finish task outcome) := by
  refine ⟨rfl, rfl, rfl, Group.finish_draining _ _ _, Group.finish_sealed _ _ _,
    Group.finish_cancelled _ _ _, ?_, ?_, ?_⟩
  · exact Nat.le_of_eq (Group.length_tasks_finish _ _ _).symm
  · intro other told ended
    exact Group.outcome?_finish ended
  · intro _ other runs
    change (s.group.finish task outcome).isRunning other = true at runs
    rw [Group.isRunning_finish, Bool.and_eq_true] at runs
    exact runs.1

theorem works_spawn {s next : Service} {task : Nat} (taken : s.spawn = .ok (task, next)) :
    s.Works next := by
  rcases s.spawn_eq with ⟨_, refused⟩ | ⟨isOpen, admitted⟩
  · rw [refused] at taken
    cases taken
  · rw [admitted] at taken
    cases taken
    refine .of_tasks rfl rfl rfl [none] s.group.tokens rfl ?_
    intro drains
    rw [isOpen] at drains
    cases drains

theorem accept_of_draining {s : Service} (drains : s.group.draining = true) (loop : Loop) :
    (s.accept loop).1.task = none := by
  simp [accept, drawId, Group.token, Group.enrol, drains]

theorem works_accept (s : Service) (loop : Loop) : s.Works (s.accept loop).2 := by
  obtain ⟨tasks, task, arrival, service, how⟩ := s.accept_eq loop
  rcases how with ⟨rfl, rfl⟩ | ⟨rfl, rfl⟩
  · rw [service]
    refine .of_tasks rfl rfl rfl [] (s.group.tokens ++ [false]) ?_ fun _ => rfl
    simp
  · have refused (drains : s.group.draining = true) : [none] = ([] : List (Option Outcome)) := by
      have dropped := accept_of_draining drains loop
      rw [arrival] at dropped
      cases dropped
    rw [service]
    exact .of_tasks rfl rfl rfl [none] (s.group.tokens ++ [false]) rfl refused

theorem works_dial (s : Service) (address : Address) (timeout : Duration) (answer : PeerAnswer)
    (shutdown : Option Duration) : s.Works (s.dial address timeout answer shutdown).service := by
  rcases s.dial_eq address timeout answer shutdown with ⟨_, same⟩ | ⟨_, _, departed⟩
  · rw [same]
    exact .refl s
  · rw [departed]
    refine .of_tasks rfl rfl rfl [] (s.group.tokens ++ [false]) ?_ fun _ => rfl
    simp [depart, drawId, Group.token]

theorem works_loseAll (s : Service) : s.Works s.loseAll := by
  refine ⟨rfl, rfl, rfl, rfl, rfl, rfl, ?_, ?_, ?_⟩
  · simp [loseAll, Group.loseAll]
  · intro task outcome told
    have found := Option.join_eq_some_iff.mp told
    refine Option.join_eq_some_iff.mpr ?_
    change (s.group.tasks.map _)[task]? = _
    rw [List.getElem?_map, found]
    rfl
  · intro _ task runs
    have found := (Group.isRunning_iff _ _).mp runs
    change (s.group.tasks.map _)[task]? = _ at found
    rw [List.getElem?_map] at found
    cases held : s.group.tasks[task]? with
    | none => simp [held] at found
    | some outcome => simp [held] at found

end Channel.Service

namespace Server

/-- Whatever happens in the traffic is work. -/
theorem Traffic.Step.works {t next : Traffic} {event : Event} {told : List Observation}
    (step : t.Step event next told) : t.service.Works next.service := by
  cases step with
  | unheard | identifies | refuses | attempts | opens | closes | relays => exact .refl _
  | arrives => exact Service.works_accept _ _
  | dials heard answer shutdown => exact Service.works_dial _ _ _ answer shutdown
  | starts heard answer shutdown claimed spawned =>
      exact (Service.works_dial _ _ _ answer shutdown).trans (Service.works_spawn spawned)
  | ends => exact Service.works_finish _ _ _
  | @leaves number visit stays =>
      rcases t.service_leave number visit with same | ⟨task, _, finished⟩
      · rw [same]
        exact .refl _
      · rw [finished]
        exact Service.works_finish _ _ _

namespace Traffic

variable {t : Traffic}

theorem isServed_of_over (isOver : t.service.Over) (visit : Visit) : t.isServed visit = false := by
  cases task : visit.arrival.task with
  | none => simp [isServed, task]
  | some task_ => simp [isServed, task, isOver.still]

/-- What a visit still holds. -/
theorem visitHoldings_of_over (isOver : t.service.Over) (number : Nat) (visit : Visit) :
    t.visitHoldings number visit =
      if visit.up && !visit.gone then [.connection number] else [] := by
  have links : visit.links.flatMap (t.linkHoldings number) = [] := by
    refine List.flatMap_eq_nil_iff.mpr fun link _ => ?_
    rw [linkHoldings, isOver.still]
    rfl
  have connected : t.isConnected visit = (visit.up && !visit.gone) := by
    rw [isConnected, isServed_of_over isOver]
    cases visit.up <;> rfl
  rw [visitHoldings, connected, links, List.append_nil]

/-- Of all that was held there are the connections that are served on. -/
theorem mem_holdings_of_over (isOver : t.service.Over) (holding : Holding) :
    holding ∈ t.holdings ↔
      ∃ number, (t.heard? number).isSome = true ∧ holding = .connection number := by
  rw [holdings, isOver.sockets_eq, List.map_nil, List.nil_append, List.mem_flatMap]
  constructor
  · rintro ⟨⟨visit, number⟩, numbered, held⟩
    rw [visitHoldings_of_over isOver] at held
    split at held
    · rename_i served
      have place := List.mem_zipIdx_iff_getElem?.mp numbered
      exact ⟨number, by simp [heard?, place, served], List.mem_singleton.mp held⟩
    · cases held
  · rintro ⟨number, heard, rfl⟩
    obtain ⟨visit, heard⟩ := Option.isSome_iff_exists.mp heard
    obtain ⟨place, served⟩ := Option.filter_eq_some_iff.mp heard
    refine ⟨(visit, number), List.mem_zipIdx_iff_getElem?.mpr place, ?_⟩
    rw [visitHoldings_of_over isOver, if_pos served]
    exact List.mem_singleton_self _

/-- No relay goes on. -/
theorem link?_of_over (isOver : t.service.Over) (number index : Nat) :
    t.link? number index = none := by
  cases linked : t.link? number index with
  | none => rfl
  | some found =>
      obtain ⟨visit, held, rest⟩ := Option.bind_eq_some_iff.mp linked
      obtain ⟨link, _, last⟩ := Option.bind_eq_some_iff.mp rest
      rw [isOver.still] at last
      cases last

theorem delivers_nothing (isOver : t.service.Over) {event : Event} {next : Traffic}
    {told : List Observation} (step : t.Step event next told) (link : Nat)
    (direction : Relay.Direction) (bytes : Bytes) : .delivered link direction bytes ∉ told := by
  cases step with
  | unheard | identifies | attempts | opens | refuses | dials | starts | closes | leaves => simp
  | arrives runs =>
      rw [isOver.still] at runs
      cases runs
  | relays linked | ends linked =>
      rw [link?_of_over isOver] at linked
      cases linked

end Traffic

/-! ## Servers that are bound -/

/-- An open service with one loop, the first task, which may have ended. -/
structure Bound.Owns (b : Bound) : Prop where
  isOpen : b.traffic.service.closed = false
  loops : b.traffic.service.loops = [⟨b.acceptor, 0, b.address, false⟩]
  bound : b.traffic.service.acceptors[b.acceptor]? = some (some 0)
  looped : 0 < b.traffic.service.group.tasks.length

theorem Bound.Owns.works {b next : Bound} (owns : b.Owns)
    (works : b.traffic.service.Works next.traffic.service) (acceptor : next.acceptor = b.acceptor)
    (address : next.address = b.address) : next.Owns := by
  refine ⟨works.closed.trans owns.isOpen, ?_, ?_, Nat.lt_of_lt_of_le owns.looped works.length⟩
  · rw [works.loops, owns.loops, acceptor, address]
  · rw [works.acceptors, acceptor]
    exact owns.bound

/-- What is true of a server when it begins to listen, and is kept by its traffic
and by the ends of its tasks. -/
structure Bound.Invariant (α : Type) (P : Bound → Prop) : Prop where
  begins : ∀ (config : Configuration α HostKey.Source) b, b.Begins config b.address → P b
  serves : ∀ b event, P b → P { b with traffic := (b.traffic.step event).1 }
  ends : ∀ b task outcome, P b →
    P { b with traffic := b.traffic.onService fun service => service.finish task outcome }
  lost : ∀ b, P b → P { b with traffic := b.traffic.lose }

namespace Bound.Invariant

variable {α : Type} {P : Bound → Prop}

theorem step (invariant : Bound.Invariant α P) {s next : Server} {call : Call α}
    {seen : List Observation} (step : s.Step call next seen)
    (holds : ∀ b, s.lifecycle = .bound b → P b) : ∀ b, next.lifecycle = .bound b → P b := by
  intro b bound
  cases step with
  | fails created =>
      rw [created] at bound
      cases bound
  | @binds config _ _ created reached one begins =>
      cases bound
      exact invariant.begins config b begins
  | refuses => exact holds b bound
  | retires => cases bound
  | closes => cases bound
  | stays => exact holds b bound
  | waits => exact holds b bound
  | @serves before was event =>
      cases bound
      exact invariant.serves before event (holds before was)
  | lingers => cases bound

theorem onTraffic {s : Server} {change : Traffic → Traffic}
    (kept : ∀ b : Bound, P b → P { b with traffic := change b.traffic })
    (holds : ∀ b, s.lifecycle = .bound b → P b) :
    ∀ b, (s.onTraffic change).lifecycle = .bound b → P b := by
  intro b bound
  unfold Server.onTraffic at bound
  split at bound
  · rename_i before was
    cases bound
    exact kept before (holds before was)
  · cases bound
  · exact holds b bound

theorem meet (invariant : Bound.Invariant α P) {s : Server}
    (holds : ∀ b, s.lifecycle = .bound b → P b) (incident : Incident α) :
    ∀ b, (s.meet incident).lifecycle = .bound b → P b := by
  cases incident with
  | call call => exact invariant.step (s.call_step call) holds
  | ends task outcome => exact onTraffic (fun b => invariant.ends b task outcome) holds
  | poolLost => exact onTraffic invariant.lost holds

theorem lives (invariant : Bound.Invariant α P) {s : Server}
    (holds : ∀ b, s.lifecycle = .bound b → P b) (incidents : List (Incident α)) :
    ∀ b, (s.live incidents).lifecycle = .bound b → P b := by
  induction incidents generalizing s with
  | nil => exact holds
  | cons first rest ih => exact ih (invariant.meet holds first)

/-- Whatever a server meets with, it is true of it while it is bound. -/
theorem live (invariant : Bound.Invariant α P) (policy : CipherPolicy)
    (incidents : List (Incident α)) {b : Bound}
    (bound : ((new policy).live incidents).lifecycle = .bound b) : P b := by
  refine invariant.lives ?_ incidents b bound
  intro b created
  cases created

end Bound.Invariant

theorem invariant_owns (α : Type) : Bound.Invariant α Bound.Owns where
  begins := fun _ _ begins =>
    ⟨begins.listens.isOpen, begins.listens.loops, begins.listens.bound,
      Group.lt_length_of_isRunning begins.listens.runs⟩
  serves := fun b event owns => owns.works (b.traffic.step_step event).works rfl rfl
  ends := fun _ task outcome owns => owns.works (Service.works_finish _ task outcome) rfl rfl
  lost := fun _ owns => owns.works (Service.works_loseAll _) rfl rfl

/-! ## The invariant of a close -/

namespace Closedown

/-- The loop that the close of `b` waits for. -/
def loopOf (b : Bound) : Loop := ⟨b.acceptor, 0, b.address, false⟩

/-- How the loop ended, which is what the close will tell. -/
structure Joined (b : Bound) (s : Service) (joined : Except Channel.Error Unit) : Prop where
  ended : ∃ outcome, s.group.outcome? 0 = some outcome
  told : joined = s.joined (loopOf b)

/-- What a close of `b` waits for, or that it has returned. -/
inductive Phase (b : Bound) (c : Closedown) : Prop where
  | joining (stage : c.stage = .joining (loopOf b)) (isOpen : c.traffic.service.closed = false)
      (looped : 0 < c.traffic.service.group.tasks.length)
  | releasing {joined : Except Channel.Error Unit} (stage : c.stage = .releasing joined .forcing)
      (stopping : c.traffic.service.Stopping) (joined : Joined b c.traffic.service joined)
  | returned {joined : Except Channel.Error Unit} (stage : c.stage = .releasing joined .returned)
      (stopping : c.traffic.service.Stopping) (joined : Joined b c.traffic.service joined)
      (still : ∀ task, c.traffic.service.group.isRunning task = false)

variable {b : Bound} {c later : Closedown}

theorem Joined.works {s next : Service} {joined : Except Channel.Error Unit}
    (told : Joined b s joined) (works : s.Works next) : Joined b next joined := by
  obtain ⟨outcome, ended⟩ := told.ended
  have after := works.outcomes 0 outcome ended
  refine ⟨⟨outcome, after⟩, told.told.trans ?_⟩
  simp only [Service.joined, loopOf, ended, after]

theorem Phase.works (phase : Phase b c) (works : c.traffic.service.Works later.traffic.service)
    (stage : later.stage = c.stage) : Phase b later := by
  cases phase with
  | joining at_ isOpen looped =>
      exact .joining (stage.trans at_) (works.closed.trans isOpen)
        (Nat.lt_of_lt_of_le looped works.length)
  | releasing at_ stopping joined =>
      exact .releasing (stage.trans at_) (stopping.works works) (joined.works works)
  | returned at_ stopping joined still =>
      exact .returned (stage.trans at_) (stopping.works works) (joined.works works)
        (works.still stopping.shutting.drains still)

theorem stopLoop_eq (owns : b.Owns) :
    b.traffic.service.stopLoop b.acceptor =
      (some (loopOf b),
        { b.traffic.service with
          acceptors := b.traffic.service.acceptors.set b.acceptor none
          loops := [{ loopOf b with stopped := true }] }) := by
  simp [Service.stopLoop, owns.bound, owns.loops, loopOf]

theorem start_eq (owns : b.Owns) :
    start b =
      ⟨b.traffic.onService fun s =>
        { s with
          acceptors := s.acceptors.set b.acceptor none
          loops := [{ loopOf b with stopped := true }] },
        .joining (loopOf b)⟩ := by
  simp only [start, stopLoop_eq owns]
  rfl

theorem phase_start (owns : b.Owns) : Phase b (start b) := by
  rw [start_eq owns]
  exact .joining rfl owns.isOpen owns.looped

/-- What closing an open service at once begins with. -/
theorem release_eq {t : Traffic} (isOpen : t.service.closed = false)
    (joined : Except Channel.Error Unit) :
    release t joined =
      ⟨{ t with service := t.service.beginClose .immediate }, .releasing joined .forcing⟩ := by
  simp [release, CloseCall.start, isOpen, CloseCall.Stage.first]

theorem stopping_beginClose {s : Service} (isOpen : s.closed = false) :
    (s.beginClose .immediate).Stopping :=
  ⟨Service.shutting_beginClose isOpen .immediate, by
    simp [Service.beginClose, isOpen, Group.cancelAll]⟩

theorem Phase.joins (phase : Phase b c) {loop : Loop} (stage : c.stage = .joining loop)
    (ended : c.traffic.service.group.isRunning loop.task = false) :
    Phase b (release c.traffic (c.traffic.service.joined loop)) := by
  cases phase with
  | joining at_ isOpen looped =>
      cases at_.symm.trans stage
      have tasks := c.traffic.service.tasks_beginClose .immediate
      have outcome : ∃ outcome, c.traffic.service.group.outcome? 0 = some outcome := by
        cases found : c.traffic.service.group.tasks[0] with
        | none =>
            have runs : c.traffic.service.group.isRunning 0 = true := by
              rw [Group.isRunning_iff, List.getElem?_eq_getElem looped, found]
            rw [show (loopOf b).task = 0 from rfl, runs] at ended
            cases ended
        | some outcome =>
            exact ⟨outcome, by rw [Group.outcome?, List.getElem?_eq_getElem looped, found]; rfl⟩
      have same : (c.traffic.service.beginClose .immediate).group.outcome? 0 =
          c.traffic.service.group.outcome? 0 := by
        rw [Group.outcome?, tasks, Group.outcome?]
      rw [release_eq isOpen]
      refine .releasing rfl (stopping_beginClose isOpen) ⟨same ▸ outcome, ?_⟩
      simp only [Service.joined, loopOf, same]
  | releasing at_ => cases at_.symm.trans stage
  | returned at_ => cases at_.symm.trans stage

theorem Phase.step (phase : Phase b c) (step : Step c later) : Phase b later := by
  cases step with
  | serves event => exact phase.works (c.traffic.step_step event).works rfl
  | ends task asked => exact phase.works (Service.works_finish _ task _) rfl
  | poolLost => exact phase.works (Service.works_loseAll _) rfl
  | joins stage ended => exact phase.joins stage ended
  | @resumes joined close stage =>
      cases phase with
      | joining at_ => cases at_.symm.trans stage
      | releasing at_ stopping told =>
          cases at_.symm.trans stage
          cases terminated : c.traffic.service.group.isTerminated with
          | true =>
              have still := ((Group.isTerminated_iff _).mp terminated).2
              simp only [CloseCall.resume, terminated, Bool.true_or, if_true]
              exact .returned rfl stopping told still
          | false =>
              simp only [CloseCall.resume, terminated]
              exact .releasing rfl stopping told
      | returned at_ stopping told still =>
          cases at_.symm.trans stage
          exact .returned rfl stopping told still

theorem Phase.run (phase : Phase b c) (run : Run c later) : Phase b later := by
  induction run with
  | refl => exact phase
  | tail _ step ih => exact ih.step step

/-! ## Every close returns -/

theorem Run.trans {middle : Closedown} (first : Run c middle) (second : Run middle later) :
    Run c later := by
  induction second with
  | refl => exact first
  | tail _ step ih => exact ih.tail step

/-- Tasks that were asked to stop can do so one by one. -/
theorem run_finishAll (asked : c.traffic.service.group.cancelled = true) (tasks : List Nat) :
    Run c (c.setGroup (c.traffic.service.group.finishAll tasks .cancelled)) := by
  induction tasks using List.reverseRecOn with
  | nil => exact Run.refl c
  | append_singleton tasks task ih =>
      have last : c.traffic.service.group.finishAll (tasks ++ [task]) .cancelled =
          (c.traffic.service.group.finishAll tasks .cancelled).finish task .cancelled := by
        simp [Group.finishAll]
      have still : (c.traffic.service.group.finishAll tasks .cancelled).cancelled = true := by
        rw [Group.finishAll_eq]
        exact asked
      rw [last]
      exact ih.tail (Step.ends task .cancelled fun _ => still)

/-- A close that waits for the cancelled tasks returns when all have stopped. -/
theorem run_releasing {joined : Except Channel.Error Unit}
    (stage : c.stage = .releasing joined .forcing) (stopping : c.traffic.service.Stopping) :
    Run c
      ⟨(c.setGroup c.traffic.service.group.stopAll).traffic, .releasing joined .returned⟩ := by
  have stopped := Group.stopAll_eq_finishAll stopping.asked
  let middle := c.setGroup c.traffic.service.group.stopAll
  have run : Run c middle := by
    have ended := run_finishAll stopping.asked c.traffic.service.group.running
    rw [← stopped] at ended
    exact ended
  have terminated : middle.traffic.service.group.isTerminated = true := by
    refine (Group.isTerminated_iff _).mpr ⟨?_, Group.isRunning_stopAll stopping.asked⟩
    change c.traffic.service.group.stopAll.sealed = true
    rw [stopped, Group.finishAll_eq]
    exact stopping.shutting.isSealed
  have resumed : (⟨middle.traffic.service, .forcing⟩ : CloseCall).resume false =
      ⟨middle.traffic.service, .returned⟩ := by
    simp [CloseCall.resume, terminated]
  have at_ : middle.stage = .releasing joined .forcing := stage
  have last := run.tail (Step.resumes at_)
  rw [resumed] at last
  exact last

/-- The loop stops as it is told, and then the service is closed. -/
theorem run_joining (stage : c.stage = .joining (loopOf b))
    (isOpen : c.traffic.service.closed = false) :
    let stopped := c.traffic.service.finish 0 .completed
    Run c
      ⟨{ c.traffic with service := (stopped.close .immediate fun _ => none).service },
        .releasing (stopped.joined (loopOf b)) .returned⟩ := by
  intro stopped
  let ended := c.onService fun s => s.finish 0 .completed
  have stops : Step c ended := Step.ends 0 .completed (by simp)
  have still : ended.traffic.service.group.isRunning (loopOf b).task = false := by
    change (c.traffic.service.group.finish 0 .completed).isRunning 0 = false
    rw [Group.isRunning_finish]
    simp
  have opened : stopped.closed = false := isOpen
  have at_ : ended.stage = .joining (loopOf b) := stage
  have joins := Step.joins at_ still
  let released : Closedown :=
    ⟨{ c.traffic with service := stopped.beginClose .immediate },
      .releasing (stopped.joined (loopOf b)) .forcing⟩
  have begun : release ended.traffic (ended.traffic.service.joined (loopOf b)) = released :=
    release_eq (t := ended.traffic) opened _
  rw [begun] at joins
  have rest := run_releasing (c := released) rfl (stopping_beginClose opened)
  have whole : (stopped.close .immediate fun _ => none).service =
      { stopped.beginClose .immediate with
        group := (stopped.beginClose .immediate).group.stopAll } := by
    simp [Service.close, Service.force, Service.beginClose, opened]
  rw [whole]
  exact (((Run.refl c).tail stops).tail joins).trans rest

/-- From wherever the close is, it can return. -/
theorem Phase.exists_result (phase : Phase b c) :
    ∃ last result, Run c last ∧ last.result? = some result := by
  cases phase with
  | joining stage isOpen looped => exact ⟨_, _, run_joining stage isOpen, rfl⟩
  | releasing stage stopping => exact ⟨_, _, run_releasing stage stopping, rfl⟩
  | @returned joined stage =>
      refine ⟨c, joined.mapError fun e => .shutdownInterrupted e.message, Run.refl c, ?_⟩
      simp [result?, stage]

/-- What stops the loop at once and waits for nobody else. -/
theorem unbind_eq (owns : b.Owns) :
    let stopped := (start b).traffic.service.finish 0 .completed
    (b.traffic.service.unbind b.acceptor).service = stopped ∧
      (b.traffic.service.unbind b.acceptor).result = stopped.joined (loopOf b) := by
  intro stopped
  have told : stopped = ({ b.traffic.service with
      acceptors := b.traffic.service.acceptors.set b.acceptor none
      loops := [{ loopOf b with stopped := true }] } : Service).finish 0 .completed := by
    simp only [stopped, start_eq owns]
    rfl
  rw [told]
  simp only [Service.unbind, owns.bound, owns.loops, Option.join_some, List.getElem?_cons_zero,
    List.set_cons_zero, loopOf]
  split
  · rename_i joined
    exact ⟨rfl, joined.symm⟩
  · rename_i cause joined
    exact ⟨rfl, joined.symm⟩

/-- Left to itself, a close comes to what it is told to come to as a whole. -/
theorem run_close {s : Server} (bound : s.lifecycle = .bound b) (owns : b.Owns) :
    ∃ last, Run (start b) last ∧ last.server s = s.close.server ∧
      last.result? = some s.close.result := by
  have begun := start_eq owns
  have stage : (start b).stage = .joining (loopOf b) := by rw [begun]
  have isOpen : (start b).traffic.service.closed = false := by
    rw [begun]
    exact owns.isOpen
  have rest (service : Service) :
      { (start b).traffic with service := service } = { b.traffic with service := service } := by
    rw [begun]
    rfl
  obtain ⟨service, result⟩ := unbind_eq owns
  refine ⟨_, run_joining stage isOpen, ?_, ?_⟩
  · rw [← service, rest]
    simp only [server, Server.close, bound]
  · rw [← result]
    simp only [result?, Server.close, bound]

/-- The loop did not come to its end. -/
def Interrupted (b : Bound) (s : Service) : Prop :=
  s.group.outcome? (loopOf b).task = some .lost ∨ s.group.outcome? (loopOf b).task = some .panicked

theorem Joined.result {s : Service} {joined : Except Channel.Error Unit}
    (told : Joined b s joined) :
    (Interrupted b s ∧ ∃ cause, joined = .error cause) ∨
      (¬ Interrupted b s ∧ joined = .ok ()) := by
  obtain ⟨outcome, ended⟩ := told.ended
  have at_ : s.group.outcome? (loopOf b).task = some outcome := ended
  rw [told.told]
  unfold Interrupted Service.joined
  rw [at_]
  cases outcome with
  | completed | cancelled => exact Or.inr ⟨by simp, rfl⟩
  | panicked | lost => exact Or.inl ⟨by simp, _, rfl⟩

theorem Phase.of_result {result : Except Error Unit} (phase : Phase b c)
    (told : c.result? = some result) :
    c.traffic.service.Over ∧ c.traffic.service.Stopping ∧
      ((Interrupted b c.traffic.service ∧ ∃ message, result = .error (.shutdownInterrupted message)) ∨
        (¬ Interrupted b c.traffic.service ∧ result = .ok ())) := by
  cases phase with
  | joining stage => simp [result?, stage] at told
  | releasing stage => simp [result?, stage] at told
  | @returned joined stage stopping ended still =>
      have same : result = joined.mapError fun e => Error.shutdownInterrupted e.message := by
        rw [result?, stage] at told
        exact (Option.some.inj told).symm
      refine ⟨⟨stopping.shutting.isClosed, stopping.shutting.drains, still⟩, stopping, ?_⟩
      rcases ended.result with ⟨interrupted, cause, rfl⟩ | ⟨clean, rfl⟩
      · exact Or.inl ⟨interrupted, _, same⟩
      · exact Or.inr ⟨clean, same⟩

end Closedown

variable {α : Type}

theorem onTraffic_closed {s : Server} {left : Option Traffic} (closed : s.lifecycle = .closed left)
    (change : Traffic → Traffic) : (s.onTraffic change).lifecycle = .closed (left.map change) := by
  cases left <;> simp [onTraffic, closed]

theorem closed_live {s : Server} {left : Option Traffic} (closed : s.lifecycle = .closed left)
    (incidents : List (Incident α)) : ∃ later, (s.live incidents).lifecycle = .closed later := by
  induction incidents generalizing s left with
  | nil => exact ⟨left, closed⟩
  | cons first rest ih =>
      have next : ∃ later, (s.meet first).lifecycle = .closed later := by
        cases first with
        | call call => exact closed_run closed [call]
        | ends | poolLost => exact ⟨_, onTraffic_closed closed _⟩
      obtain ⟨later, closed⟩ := next
      exact ih closed

theorem close_of_closed {s : Server} {left : Option Traffic} (closed : s.lifecycle = .closed left) :
    s.close = ⟨.ok (), s, [.nothingToRelease]⟩ := by
  simp [Server.close, closed]

/--
A server that is bound, whatever it met with: traffic of any kind, tasks that
ended in any way, the loss of its pool.  Its close can come to what a close told
as a whole comes to, and whatever happens meanwhile it can return.  When it has
returned its service is closed, drained and cancelled, its loop and every other
task have ended, and what they held is dropped: the socket, the connections that
were being set up and both ends of every relay.  What is held still is the
connection of every client whose session was set up and that has not left.  It
returns an error exactly if its loop did not come to its end.

From then on the server is closed and has no address, no traffic does anything
to its service or gets bytes through a relay, and another close does nothing,
whenever it is made.
-/
theorem close_run (policy : CipherPolicy) (incidents : List (Incident α)) {b : Bound}
    (bound : ((new policy).live incidents).lifecycle = .bound b) :
    let s := (new policy).live incidents
    (∃ last, Closedown.Run (Closedown.start b) last ∧ last.server s = s.close.server ∧
      last.result? = some s.close.result) ∧
    ∀ c, Closedown.Run (Closedown.start b) c →
      (∃ last result, Closedown.Run c last ∧ last.result? = some result) ∧
      ∀ result, c.result? = some result →
        let service := c.traffic.service
        (service.closed = true ∧ service.group.draining = true ∧ service.group.cancelled = true) ∧
        (∀ task, service.group.isRunning task = false) ∧
        service.sockets = [] ∧
        (∀ holding, holding ∈ c.traffic.holdings ↔
          ∃ number, (c.traffic.heard? number).isSome ∧ holding = .connection number) ∧
        ((∃ message, result = .error (.shutdownInterrupted message)) ↔
          Closedown.Interrupted b service) ∧
        (result = .ok () ↔ ¬ Closedown.Interrupted b service) ∧
        (c.server s).lifecycle = .closed (some c.traffic) ∧ (c.server s).localAddress? = none ∧
        (∀ event, (c.traffic.step event).1.service = service ∧
          ∀ link direction bytes,
            .delivered link direction bytes ∉ (c.traffic.step event).2) ∧
        ∀ more : List (Incident α),
          ((c.server s).live more).close =
            ⟨.ok (), (c.server s).live more, [.nothingToRelease]⟩ := by
  intro s
  have owns : b.Owns := (invariant_owns α).live policy incidents bound
  refine ⟨Closedown.run_close bound owns, fun c run => ?_⟩
  have phase := (Closedown.phase_start owns).run run
  refine ⟨phase.exists_result, fun result told => ?_⟩
  obtain ⟨isOver, stopping, ended⟩ := phase.of_result told
  refine ⟨⟨isOver.isClosed, isOver.drains, stopping.asked⟩, isOver.still, isOver.sockets_eq,
    Traffic.mem_holdings_of_over isOver, ?interrupted, ?clean, rfl, rfl, ?traffic, ?again⟩
  case interrupted =>
    rcases ended with ⟨interrupted, message, rfl⟩ | ⟨clean, rfl⟩
    · exact ⟨fun _ => interrupted, fun _ => ⟨message, rfl⟩⟩
    · refine ⟨?_, fun interrupted => absurd interrupted clean⟩
      rintro ⟨message, same⟩
      cases same
  case clean =>
    rcases ended with ⟨interrupted, message, rfl⟩ | ⟨clean, rfl⟩
    · exact ⟨fun same => (by cases same), fun clean => absurd interrupted clean⟩
    · exact ⟨fun _ => clean, fun _ => rfl⟩
  case traffic =>
    intro event
    have step := c.traffic.step_step event
    exact ⟨step.service_of_over isOver, Traffic.delivers_nothing isOver step⟩
  case again =>
    intro more
    have closed : (c.server s).lifecycle = .closed (some c.traffic) := rfl
    obtain ⟨later, still⟩ := closed_live closed more
    exact close_of_closed still

/-- A server with a bridge at work whose accept loop has panicked. The relay is
gone after the close, and the client is still connected. -/
theorem close_run_panicked :
    let config : Configuration Unit HostKey.Source :=
      ⟨.localhost 2022, .localhost 830, (), .memory [⟨.ed25519 [], [], ""⟩],
        ⟨.ofSeconds 600, .ofSeconds 600, .ofSeconds 10⟩⟩
    let around : Surroundings :=
      ⟨.empty, 0, [], .multiThreaded, [], fun _ => .ok (), fun address _ => .opened address⟩
    let incidents : List (Incident Unit) :=
      [.call (.bind config around), .call (.traffic (.arrives ⟨0, 0, .localhost 2022, false⟩)),
        .call (.traffic (.identifies 0)), .call (.traffic (.attempts 0 true)),
        .call (.traffic (.opens 0 0)),
        .call (.traffic (.requests 0 0 "netconf" (.accepts .zero) none)), .ends 0 .panicked]
    let s := (new .default).live incidents
    s.traffic?.map Traffic.holdings = some [.connection 0, .channel 0 0, .backend ⟨⟨2⟩, 1⟩] ∧
      ∃ b, s.lifecycle = .bound b ∧ ∃ last, Closedown.Run (Closedown.start b) last ∧
        (∀ holding, holding ∈ last.traffic.holdings → ∃ number, holding = .connection number) ∧
        ∃ message, last.result? = some (.error (.shutdownInterrupted message)) := by
  intro config around incidents s
  refine ⟨by decide +kernel, ?_⟩
  obtain ⟨b, bound⟩ : ∃ b, s.lifecycle = .bound b := ⟨_, rfl⟩
  have failed : ∃ message, s.close.result = .error (.shutdownInterrupted message) := ⟨_, rfl⟩
  obtain ⟨⟨last, run, _, told⟩, every⟩ := close_run .default incidents bound
  obtain ⟨_, ended⟩ := every last run
  obtain ⟨_, _, _, holdings, _⟩ := ended _ told
  obtain ⟨message, interrupted⟩ := failed
  refine ⟨b, bound, last, run, fun holding held => ?_, message,
    told.trans (congrArg some interrupted)⟩
  obtain ⟨number, _, connection⟩ := (holdings holding).mp held
  exact ⟨number, connection⟩

/-- A client that has only named its protocol is still connected when the close has
returned without a failure. -/
theorem close_run_connected :
    let config : Configuration Unit HostKey.Source :=
      ⟨.localhost 2022, .localhost 830, (), .memory [⟨.ed25519 [], [], ""⟩],
        ⟨.ofSeconds 600, .ofSeconds 600, .ofSeconds 10⟩⟩
    let around : Surroundings :=
      ⟨.empty, 0, [], .multiThreaded, [], fun _ => .ok (), fun address _ => .opened address⟩
    let incidents : List (Incident Unit) :=
      [.call (.bind config around), .call (.traffic (.arrives ⟨0, 0, .localhost 2022, false⟩)),
        .call (.traffic (.identifies 0))]
    let s := (new .default).live incidents
    ∃ b, s.lifecycle = .bound b ∧ ∃ last, Closedown.Run (Closedown.start b) last ∧
      last.result? = some (.ok ()) ∧ last.traffic.holdings = [.connection 0] := by
  intro config around incidents s
  obtain ⟨b, bound⟩ : ∃ b, s.lifecycle = .bound b := ⟨_, rfl⟩
  have owns : b.Owns := (invariant_owns Unit).live .default incidents bound
  obtain ⟨last, run, left, told⟩ := Closedown.run_close bound owns
  have clean : s.close.result = .ok () := rfl
  have held : s.close.server.traffic?.map Traffic.holdings = some [.connection 0] := by
    decide +kernel
  rw [← left] at held
  exact ⟨b, bound, last, run, told.trans (congrArg some clean), Option.some.inj held⟩

end Server

end NetconfGate
