import NetconfGate.Channel.Acceptor
import NetconfGate.Channel.Dial
import NetconfGate.Proofs.Channel.Group

/-!
# Services that listen and services that are over

A service listens for a server when it is open and its first task is an accept
loop that runs. It is over when it was closed and nothing in it runs; then no
operation changes it any more. The work of a listening service leaves its loop
alone.
-/

namespace NetconfGate.Channel

namespace Service

/-- Open, with one loop, which is the first task and belongs to `acceptor`. -/
structure Listens (s : Service) (acceptor : Nat) (address : Address) : Prop where
  isOpen : s.closed = false
  loops : s.loops = [⟨acceptor, 0, address, false⟩]
  bound : s.acceptors[acceptor]? = some (some 0)
  runs : s.group.isRunning 0 = true

/-- Closed, refusing work, and with none left. -/
structure Over (s : Service) : Prop where
  isClosed : s.closed = true
  drains : s.group.draining = true
  still : ∀ task, s.group.isRunning task = false

namespace Listens

variable {s : Service} {acceptor : Nat} {address : Address}

theorem localAddress?_eq (listens : s.Listens acceptor address) :
    s.localAddress? acceptor = some address := by
  simp [localAddress?, boundLoop?, listens.bound, listens.loops]

theorem sockets_eq (listens : s.Listens acceptor address) : s.sockets = [address] := by
  simp [sockets, runningLoops, listens.loops, listens.runs]

end Listens

theorem Over.sockets_eq {s : Service} (isOver : s.Over) : s.sockets = [] := by
  have idle : s.runningLoops = [] := by
    apply List.filter_eq_nil_iff.mpr
    intro loop _
    rw [isOver.still]
    exact Bool.false_ne_true
  rw [sockets, idle, List.map_nil]

/-- A task is admitted as the next in line, and nothing else changes. -/
theorem spawn_eq (s : Service) :
    (s.group.draining = true ∧ s.spawn = .error .groupShutdown) ∨
      (s.group.draining = false ∧
        s.spawn = .ok (s.group.tasks.length,
          { s with group := { s.group with tasks := s.group.tasks ++ [none] } })) := by
  rcases s.group.enrol_eq with ⟨drains, refused⟩ | ⟨isOpen, taken⟩
  · exact Or.inl ⟨drains, by simp [spawn, refused, Except.map]⟩
  · exact Or.inr ⟨isOpen, by simp [spawn, taken, Except.map]⟩

theorem Listens.of_group {s : Service} {acceptor : Nat} {address : Address}
    (listens : s.Listens acceptor address) {next : Group} (runs : next.isRunning 0 = true) :
    ({ s with group := next } : Service).Listens acceptor address :=
  ⟨listens.isOpen, listens.loops, listens.bound, runs⟩

theorem Listens.spawn {s next : Service} {acceptor task : Nat} {address : Address}
    (listens : s.Listens acceptor address) (taken : s.spawn = .ok (task, next)) :
    next.Listens acceptor address ∧ task ≠ 0 := by
  rcases s.spawn_eq with ⟨_, refused⟩ | ⟨_, admitted⟩
  · rw [refused] at taken
    cases taken
  · rw [admitted] at taken
    cases taken
    have inside := Group.lt_length_of_isRunning listens.runs
    exact ⟨listens.of_group (Group.isRunning_append s.group 0 listens.runs), by omega⟩

theorem Listens.finish {s : Service} {acceptor task : Nat} {address : Address}
    (listens : s.Listens acceptor address) (other : task ≠ 0) (outcome : Outcome) :
    (s.finish task outcome).Listens acceptor address := by
  apply listens.of_group
  rw [Group.isRunning_finish, listens.runs]
  simpa using Ne.symm other

theorem Over.finish {s : Service} (isOver : s.Over) (task : Nat) (outcome : Outcome) :
    s.finish task outcome = s := by
  unfold Service.finish
  rw [Group.outcome?_finish_of_ended outcome (isOver.still task)]

/-- A connection that is taken in is told of its task, if the group has one for
it, and the loops are left alone. -/
theorem accept_eq (s : Service) (loop : Loop) :
    ∃ tasks task,
      (s.accept loop).1 = ⟨loop.acceptor, s.drawId.1, s.group.tokens.length, task⟩ ∧
      (s.accept loop).2 =
        { s.drawId.2 with
          group := { s.group with tokens := s.group.tokens ++ [false], tasks := tasks }
          arrivals := s.arrivals ++ [(s.accept loop).1] } ∧
      (task = none ∧ tasks = s.group.tasks ∨
        task = some s.group.tasks.length ∧ tasks = s.group.tasks ++ [none]) := by
  rcases s.drawId.2.group.token.2.enrol_eq with ⟨_, refused⟩ | ⟨_, taken⟩
  · have dropped : s.accept loop =
        (⟨loop.acceptor, s.drawId.1, s.group.tokens.length, none⟩,
          { s.drawId.2 with
            group := s.group.token.2
            arrivals := s.arrivals ++
              [⟨loop.acceptor, s.drawId.1, s.group.tokens.length, none⟩] }) := by
      dsimp only [accept]
      rw [refused]
      rfl
    rw [dropped]
    exact ⟨s.group.tasks, none, rfl, rfl, Or.inl ⟨rfl, rfl⟩⟩
  · have handed : s.accept loop =
        (⟨loop.acceptor, s.drawId.1, s.group.tokens.length, some s.group.tasks.length⟩,
          { s.drawId.2 with
            group := { s.group.token.2 with tasks := s.group.tasks ++ [none] }
            arrivals := s.arrivals ++
              [⟨loop.acceptor, s.drawId.1, s.group.tokens.length, some s.group.tasks.length⟩] }) := by
      dsimp only [accept]
      rw [taken]
      rfl
    rw [handed]
    exact ⟨s.group.tasks ++ [none], some s.group.tasks.length, rfl, rfl, Or.inr ⟨rfl, rfl⟩⟩

theorem Listens.accept {s : Service} {acceptor : Nat} {address : Address}
    (listens : s.Listens acceptor address) (loop : Loop) :
    (s.accept loop).2.Listens acceptor address ∧ (s.accept loop).1.task ≠ some 0 := by
  have inside := Group.lt_length_of_isRunning listens.runs
  obtain ⟨tasks, task, arrival, service, how⟩ := s.accept_eq loop
  rw [arrival, service]
  rcases how with ⟨rfl, rfl⟩ | ⟨rfl, rfl⟩
  · exact ⟨⟨listens.isOpen, listens.loops, listens.bound, listens.runs⟩, by simp⟩
  · refine ⟨⟨listens.isOpen, listens.loops, listens.bound, ?_⟩, ?_⟩
    · exact Group.isRunning_append s.group 0 listens.runs
    · intro same
      have zero := Option.some.inj same
      omega

/-- A dial numbers a connection that stands and hands it a token, or changes
nothing. -/
theorem dial_eq (s : Service) (address : Address) (timeout : Duration) (answer : PeerAnswer)
    (shutdown : Option Duration) :
    let dialling := s.dial address timeout answer shutdown
    (∃ cause, dialling.result = .error cause) ∧ dialling.service = s ∨
      s.group.draining = false ∧ dialling.result = .ok s.depart.1 ∧
        dialling.service = s.depart.2 := by
  intro dialling
  cases drains : s.group.draining with
  | true =>
      have refused : dialling = ⟨.error .groupShutdown, s, .zero⟩ :=
        dial_of_draining drains address timeout answer shutdown
      rw [refused]
      exact Or.inl ⟨⟨_, rfl⟩, rfl⟩
  | false =>
      cases ended : dialEnd timeout answer.time? shutdown <;> cases answer <;>
        simp [dialling, dial, drains, ended]

theorem Listens.dial {s : Service} {acceptor : Nat} {found : Address}
    (listens : s.Listens acceptor found) (address : Address) (timeout : Duration)
    (answer : PeerAnswer) (shutdown : Option Duration) :
    (s.dial address timeout answer shutdown).service.Listens acceptor found := by
  rcases s.dial_eq address timeout answer shutdown with ⟨_, same⟩ | ⟨_, _, departed⟩
  · rw [same]
    exact listens
  · rw [departed]
    exact ⟨listens.isOpen, listens.loops, listens.bound, listens.runs⟩

theorem Over.dial {s : Service} (isOver : s.Over) (address : Address) (timeout : Duration)
    (answer : PeerAnswer) (shutdown : Option Duration) :
    (s.dial address timeout answer shutdown).service = s := by
  rw [dial_of_draining isOver.drains]

theorem Over.spawn {s : Service} (isOver : s.Over) : s.spawn = .error .groupShutdown := by
  rcases s.spawn_eq with ⟨_, refused⟩ | ⟨isOpen, _⟩
  · exact refused
  · rw [isOver.drains] at isOpen
    cases isOpen

/-- Nothing runs in a new service with one acceptor. -/
theorem bind_acceptor_new (address : Address) (attempt : Nat → SocketAnswer) :
    let fresh := new.acceptor
    let listening := fresh.2.bind fresh.1 address attempt
    match (openSocket address attempt).1 with
    | .error cause => listening.result = .error cause ∧ listening.service = fresh.2
    | .ok found =>
        listening.result = .ok found ∧ listening.service.Listens fresh.1 found ∧
          listening.service.departures = [] := by
  rcases opened : openSocket address attempt with ⟨result, notes⟩
  cases result with
  | error cause =>
      have failed : new.acceptor.2.bind new.acceptor.1 address attempt =
          ⟨.error cause, new.acceptor.2, notes⟩ := by
        rw [Service.bind, opened]
        rfl
      simp only [failed, and_self]
  | ok found =>
      have listened : new.acceptor.2.bind new.acceptor.1 address attempt =
          ⟨.ok found,
            { new with
              group := { Group.new with tasks := [none] }
              loops := [⟨0, 0, found, false⟩]
              acceptors := [some 0] },
            notes ++ [.listening found]⟩ := by
        rw [Service.bind, opened]
        rfl
      simp only [listened, true_and]
      exact ⟨⟨rfl, rfl, rfl, rfl⟩, rfl⟩

/-- A close at once leaves nothing of an open service. -/
theorem over_close {s : Service} (isOpen : s.closed = false) (ends : Nat → Option Duration) :
    (s.close .immediate ends).service.Over := by
  have closed : (s.close .immediate ends).service =
      { s with closed := true, group := s.group.cancelAll.stopAll } := by
    simp [close, isOpen, force]
  rw [closed]
  refine ⟨rfl, ?_, ?_⟩
  · exact Group.stopAll_draining _
  · exact Group.isRunning_stopAll rfl

theorem closed_unbind (s : Service) (acceptor : Nat) :
    (s.unbind acceptor).service.closed = s.closed := by
  unfold unbind
  split
  · rfl
  · dsimp only
    split
    · rfl
    · split <;> rfl

theorem departures_accept (s : Service) (loop : Loop) :
    (s.accept loop).2.departures = s.departures := by
  obtain ⟨tasks, task, _, service, _⟩ := s.accept_eq loop
  rw [service]
  rfl

theorem departures_spawn {s next : Service} {task : Nat} (taken : s.spawn = .ok (task, next)) :
    next.departures = s.departures := by
  rcases s.spawn_eq with ⟨_, refused⟩ | ⟨_, admitted⟩
  · rw [refused] at taken
    cases taken
  · rw [admitted] at taken
    cases taken
    rfl

theorem departures_dial (s : Service) (address : Address) (timeout : Duration)
    (answer : PeerAnswer) (shutdown : Option Duration) :
    (s.dial address timeout answer shutdown).service.departures.length ≤
      s.departures.length + 1 := by
  rcases s.dial_eq address timeout answer shutdown with ⟨_, same⟩ | ⟨_, _, departed⟩
  · rw [same]
    exact Nat.le_succ _
  · rw [departed]
    exact Nat.le_of_eq List.length_append

theorem departures_unbind (s : Service) (acceptor : Nat) :
    (s.unbind acceptor).service.departures = s.departures := by
  unfold unbind
  split
  · rfl
  · dsimp only
    split
    · rfl
    · split <;> rfl

theorem departures_close (s : Service) (mode : CloseMode) (ends : Nat → Option Duration) :
    (s.close mode ends).service.departures = s.departures := by
  unfold close
  split
  · rfl
  · cases mode with
    | immediate => rfl
    | graceful =>
        dsimp only
        split <;> rfl

end Service

end NetconfGate.Channel
