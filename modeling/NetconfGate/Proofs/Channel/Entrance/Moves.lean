import NetconfGate.Channel.Entrance
import NetconfGate.Proofs.Channel.BindCall
import NetconfGate.Proofs.Channel.Reception.Fates

/-!
# The moves at an entrance

What an event can do at an entrance, guards included. Others never start a loop
and never touch the loops and tasks that are told of by events of their own, so
a loop is started by the last turn of a bind call alone: bound to its acceptor,
or told to stop if another call was first. Such a loop is one more loop of a
reception that was given up.
-/

namespace NetconfGate.Channel

namespace Entrance

/-- What an event that does something does. -/
inductive Move (e : Entrance) : Event → Entrance → Prop where
  | idle (event : Event) : e.Move event e
  | aside {event : Reception.Event} (spared : isAside event = true) :
      e.Move (.aside event) { e with reception := e.reception.step event }
  | begins {acceptor : Nat} {address : Address}
      (known : acceptor < e.service.acceptors.length) :
      e.Move (.begins acceptor address)
        { e with calls := e.calls ++ [.start e.service acceptor address] }
  | tries {call number : Nat} {answer : SocketAnswer} {c : BindCall}
      (found : e.calls[call]? = some c) (stage : c.stage = .trying number)
      (free : ∀ address, answer = .opened address → address ∉ e.sockets) :
      e.Move (.goesOn call (.tries answer))
        { e with calls := e.calls.set call (c.attempt number answer) }
  | wakes {call number : Nat} {c : BindCall} (found : e.calls[call]? = some c)
      (stage : c.stage = .pausing number) :
      e.Move (.goesOn call .wakes) { e with calls := e.calls.set call (c.wake number) }
  | refused {call : Nat} {address : Address} {c : BindCall} (found : e.calls[call]? = some c)
      (stage : c.stage = .holding address) (drains : e.service.group.draining = true) :
      e.Move (.goesOn call .hands)
        { e with calls := e.calls.set call { c with stage := .failed .groupShutdown } }
  | binds {call : Nat} {address : Address} {c : BindCall} (found : e.calls[call]? = some c)
      (stage : c.stage = .holding address) (isOpen : e.service.group.draining = false)
      (unbound : e.service.localAddress? c.acceptor = none) :
      e.Move (.goesOn call .hands)
        { reception := e.reception.withService
            { e.service with
              group := { e.service.group with tasks := e.service.group.tasks ++ [none] }
              loops := e.service.loops ++
                [⟨c.acceptor, e.service.group.tasks.length, address, false⟩]
              acceptors := e.service.acceptors.set c.acceptor (some e.service.loops.length) }
          calls := e.calls.set call
            { c with
              stage := .bound address e.service.loops.length
              notes := c.notes ++ [.listening address] } }
  | loses {call : Nat} {address existing : Address} {c : BindCall}
      (found : e.calls[call]? = some c) (stage : c.stage = .holding address)
      (isOpen : e.service.group.draining = false)
      (bound : e.service.localAddress? c.acceptor = some existing) :
      e.Move (.goesOn call .hands)
        { reception :=
            { e.reception.withService
                { e.service with
                  group := { e.service.group with tasks := e.service.group.tasks ++ [none] }
                  loops := e.service.loops ++
                    [⟨c.acceptor, e.service.group.tasks.length, address, true⟩] } with
              released := e.reception.released ++ [e.service.loops.length] }
          calls := e.calls.set call { c with stage := .late existing e.service.loops.length } }

variable {e later : Entrance} {event : Event}

theorem stray?_attempt (c : BindCall) (number : Nat) (answer : SocketAnswer) :
    (c.attempt number answer).stray? = none := by
  cases answer with
  | opened address => rfl
  | nameless cause => rfl
  | failed cause =>
      rcases c.attempt_failed number cause with ⟨_, _, paused⟩ | ⟨_, failed⟩
      · rw [paused]
        rfl
      · rw [failed]
        rfl

theorem stray?_wake (c : BindCall) (number : Nat) : (c.wake number).stray? = none := by
  unfold BindCall.wake
  split <;> rfl

theorem move_step (e : Entrance) (event : Event) : e.Move event (e.step event) := by
  cases event with
  | aside event =>
      change e.Move _ (e.aside event)
      unfold Entrance.aside
      split
      · rename_i spared
        exact .aside spared
      · exact .idle _
  | begins acceptor address =>
      change e.Move _ (e.begin acceptor address)
      unfold begin
      split
      · rename_i known
        exact .begins known
      · exact .idle _
  | goesOn call turn =>
      change e.Move _ (e.goOn call turn)
      unfold goOn
      cases found : e.calls[call]? with
      | none => exact .idle _
      | some c =>
          dsimp only
          split
          · rename_i both
            rw [Bool.and_eq_true] at both
            rcases BindCall.turn_cases e.service c turn with
              ⟨number, answer, stage, rfl, taken⟩ | ⟨number, stage, rfl, taken⟩ |
              ⟨address, stage, rfl, taken⟩ | ⟨_, taken⟩
            · rw [taken, stray?_attempt, Option.toList_none, List.append_nil]
              refine .tries found stage ?_
              rintro address rfl
              simpa [admits] using both.2
            · rw [taken, stray?_wake, Option.toList_none, List.append_nil]
              exact .wakes found stage
            · rw [taken, BindCall.hand]
              rcases e.service.takeOver_eq c.acceptor address with
                ⟨drains, handed⟩ | ⟨isOpen, existing, bound, handed⟩ | ⟨isOpen, unbound, handed⟩
              · rw [handed]
                change e.Move _ ⟨{ e.reception with released := e.reception.released ++ [] },
                  e.calls.set call
                    { c with stage := .failed .groupShutdown, notes := c.notes ++ [] }⟩
                rw [List.append_nil, List.append_nil]
                exact .refused found stage drains
              · rw [handed]
                have lost := Move.loses found stage isOpen bound
                rw [← List.append_nil c.notes] at lost
                exact lost
              · rw [handed]
                change e.Move _ ⟨{ e.reception.withService _ with
                  released := e.reception.released ++ [] }, e.calls.set call _⟩
                rw [List.append_nil]
                exact .binds found stage isOpen unbound
            · have calm : c.stray? = none := by
                have underWay := both.1
                unfold BindCall.result? at underWay
                unfold BindCall.stray?
                split
                · rename_i existing loop stage
                  simp [stage] at underWay
                · rfl
              obtain ⟨within, rfl⟩ := List.getElem?_eq_some_iff.mp found
              rw [taken, calm, Option.toList_none, List.append_nil, List.set_getElem_self]
              exact .idle _
          · exact .idle _

end Entrance

/-- The loops stay what they are, and so do these tasks. -/
structure Service.Avoids (s later : Service) (tasks : List Nat) : Prop where
  loops : later.loops = s.loops
  acceptors : later.acceptors = s.acceptors ∨ later.acceptors = s.acceptors ++ [none]
  tasks : ∀ task ∈ tasks, later.group.tasks[task]? = s.group.tasks[task]?

namespace Service

variable {s : Service} {tasks : List Nat}

theorem Avoids.of_tasks {later : Service} (loops : later.loops = s.loops)
    (acceptors : later.acceptors = s.acceptors) (same : later.group.tasks = s.group.tasks) :
    s.Avoids later tasks :=
  ⟨loops, Or.inl acceptors, fun task _ => congrArg (·[task]?) same⟩

theorem avoids_perform (inside : ∀ task ∈ tasks, task < s.group.tasks.length)
    {operation : Operation} (others : ∀ task outcome, operation = .ends task outcome → task ∉ tasks) :
    s.Avoids (s.perform operation).1 tasks := by
  cases operation with
  | spawn =>
      rcases s.perform_spawn with ⟨_, refused⟩ | ⟨_, admitted⟩
      · rw [refused]
        exact .of_tasks rfl rfl rfl
      · rw [admitted]
        exact ⟨rfl, Or.inl rfl, fun task among => List.getElem?_append_left (inside task among)⟩
  | ends task outcome =>
      rw [perform_ends]
      refine ⟨rfl, Or.inl rfl, fun other among => ?_⟩
      have different : other ≠ task := by
        rintro rfl
        exact others other outcome rfl among
      exact s.group.getElem?_finish_of_ne different outcome
  | beginClose mode =>
      change s.Avoids (s.beginClose mode) tasks
      unfold beginClose
      split
      · exact .of_tasks rfl rfl rfl
      · cases mode <;> exact .of_tasks rfl rfl rfl
  | _ => exact .of_tasks rfl rfl rfl

theorem avoids_pursue (a : Attempt) (news : Option News) (newsFirst : Bool) :
    s.Avoids (s.pursue a news newsFirst).2 tasks := by
  cases stage : a.stage with
  | ended result =>
      simp only [pursue, stage]
      exact .of_tasks rfl rfl rfl
  | waiting token =>
      cases news with
      | none =>
          simp only [pursue, stage]
          split <;> exact .of_tasks rfl rfl rfl
      | some news =>
          simp only [pursue, stage]
          split
          · exact .of_tasks rfl rfl rfl
          · cases news <;> exact .of_tasks rfl rfl rfl

end Service

namespace Reception

/-- A task that is told of by events of its own is ended by none aside. -/
theorem not_mem_tasks_of_isAside {r : Reception} {event : Course.Event}
    (isAside : r.isAside event = true) (task : Nat) (outcome : Outcome)
    (ends : event = .operation (.ends task outcome)) : task ∉ r.tasks := by
  subst ends
  simpa [Reception.isAside] using isAside

theorem avoids_aside {r : Reception} {tasks : List Nat}
    (inside : ∀ task ∈ tasks, task < r.service.group.tasks.length) {event : Course.Event}
    (others : ∀ task outcome, event = .operation (.ends task outcome) → task ∉ tasks)
    (isAside : r.isAside event = true) (spared : Entrance.isAside (.aside event) = true) :
    r.service.Avoids (r.course.step event).service tasks := by
  cases event with
  | operation operation =>
      have performed := Service.avoids_perform inside fun task outcome ends =>
        others task outcome (congrArg _ ends)
      cases operation with
      | beginClose mode =>
          change r.service.Avoids (r.course.close mode).service tasks
          unfold Course.close
          split
          · exact .of_tasks rfl rfl rfl
          · exact performed
      | _ => exact performed
  | resumes late =>
      change r.service.Avoids (r.course.resume late).service tasks
      unfold Course.resume
      split
      · exact .of_tasks rfl rfl rfl
      · rename_i stage _
        have resumed := (⟨r.course.service, stage⟩ : CloseCall).service_resume late
        dsimp only at resumed ⊢
        rw [resumed]
        split <;> exact .of_tasks rfl rfl rfl
  | acceptor => exact ⟨rfl, Or.inr rfl, fun _ _ => rfl⟩
  | listens acceptor address => cases spared
  | unbinds acceptor => cases isAside
  | accepts loop => cases isAside
  | dials address timeout =>
      change r.service.Avoids (r.service.attempt address timeout).2 tasks
      unfold Service.attempt
      split <;> exact .of_tasks rfl rfl rfl
  | pursues attempt news newsFirst =>
      change r.service.Avoids (r.course.pursue attempt news newsFirst).service tasks
      unfold Course.pursue
      split
      · exact .of_tasks rfl rfl rfl
      · rename_i a _
        exact Service.avoids_pursue a news newsFirst

variable {r later : Reception} {event : Event}

/-- Loops and bindings are left alone, or one acceptor is unbound. -/
theorem bindings_turn (turn : r.Turn event later) (spared : Entrance.isAside event = true)
    (inside : ∀ task ∈ r.tasks, task < r.service.group.tasks.length) :
    (later.service.loops = r.service.loops ∧
      (later.service.acceptors = r.service.acceptors ∨
        later.service.acceptors = r.service.acceptors ++ [none])) ∨
    ∃ acceptor loop, event = .unbinds acceptor ∧
      r.service.acceptors[acceptor]? = some (some loop) ∧
      later.service.acceptors = r.service.acceptors.set acceptor none ∧
      later.service.loops =
        r.service.loops.modify loop fun loop => { loop with stopped := true } := by
  cases turn with
  | aside isAside =>
      have avoids := avoids_aside inside (not_mem_tasks_of_isAside isAside) isAside spared
      exact Or.inl ⟨avoids.loops, avoids.acceptors⟩
  | unbinds bound => exact Or.inr ⟨_, _, rfl, bound, rfl, rfl⟩
  | settles =>
      rename_i connection c readable _ _
      obtain ⟨arrivals, tasks, settled, _⟩ := r.service.settle_eq c readable
      rw [settled]
      exact Or.inl ⟨rfl, Or.inl rfl⟩
  | _ => exact Or.inl ⟨rfl, Or.inl rfl⟩

/-- A loop's task is left alone, or the loop stops. -/
theorem loop_task_turn (turn : r.Turn event later) (spared : Entrance.isAside event = true)
    (tracked : r.Tracked) {loop : Nat} {l : Loop} (found : r.service.loops[loop]? = some l) :
    later.service.group.tasks[l.task]? = r.service.group.tasks[l.task]? ∨
      event = .stops loop ∧ later.service.group.tasks[l.task]? = some (some .completed) := by
  have among := loop_task_mem found
  cases turn with
  | aside isAside =>
      have avoids := avoids_aside tracked.inside (not_mem_tasks_of_isAside isAside) isAside spared
      exact Or.inl (avoids.tasks _ among)
  | @stops other m found_ told free =>
      by_cases same : l.task = m.task
      · obtain rfl := tracked.loop_eq found found_ same
        cases found.symm.trans found_
        cases runs : r.service.group.isRunning l.task with
        | false =>
            have kept : r.service.group.finish l.task .completed = r.service.group :=
              Group.outcome?_finish_of_ended .completed runs
            refine Or.inl ?_
            change (r.service.group.finish l.task .completed).tasks[l.task]? = _
            rw [kept]
        | true => exact Or.inr ⟨rfl, (Group.getElem?_finish runs _ _).trans (if_pos rfl)⟩
      · exact Or.inl (r.service.group.getElem?_finish_of_ne same .completed)
  | settles =>
      rename_i connection c readable _ _
      obtain ⟨arrivals, tasks, settled, how⟩ := r.service.settle_eq c readable
      rw [settled]
      rcases how with ⟨rfl, _⟩ | ⟨rfl, _, _⟩
      · exact Or.inl rfl
      · exact Or.inl (List.getElem?_append_left (tracked.inside _ among))
  | answers at_ handed _ _ =>
      exact Or.inl (r.service.group.getElem?_finish_of_ne
        (tracked.loop_ne_connection found at_ handed) _)
  | drops at_ handed _ _ =>
      exact Or.inl (r.service.group.getElem?_finish_of_ne
        (tracked.loop_ne_connection found at_ handed) _)
  | _ => exact Or.inl rfl

end Reception

end NetconfGate.Channel
