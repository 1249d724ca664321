import NetconfGate.Proofs.Channel.Reception.Fates

/-!
# No connection is lost or doubled

Whatever comes to a service in whatever order, each connection that a loop takes
has one record, one number and one fate, which is decided at one moment of the
run. It is handed to the handler of its acceptor in a task of its own, or it is
dropped because its addresses could not be read or the group had begun to drain.
-/

namespace NetconfGate.Channel

namespace Reception

variable {r : Reception} {connection : Nat} {c : Connection}

theorem after_concat (r : Reception) (events : List Event) (event : Event) :
    r.after (events ++ [event]) = (r.after events).step event := by
  simp [after]

/-- The event by which a connection was taken. -/
theorem exists_takes {events : List Event}
    (found : (new.after events).connections[connection]? = some c) :
    ∃ before later, events = before ++ .takes c.loop c.fate.readable :: later ∧
      connection = (new.after before).connections.length ∧
      (new.after before).canTake c.loop = true := by
  induction events using List.reverseRecOn generalizing c with
  | nil => cases found
  | append_singleton events last ih =>
      have extend {loop : Nat} {readable : Bool}
          (earlier : ∃ before later, events = before ++ .takes loop readable :: later ∧
            connection = (new.after before).connections.length ∧
            (new.after before).canTake loop = true) :
          ∃ before later, events ++ [last] = before ++ .takes loop readable :: later ∧
            connection = (new.after before).connections.length ∧
            (new.after before).canTake loop = true := by
        obtain ⟨before, later, rfl, first, free⟩ := earlier
        exact ⟨before, later ++ [last], by simp, first, free⟩
      rw [after_concat] at found
      rcases connection_was (turn_step _ _) found with
        same | ⟨own, readable, _, was, held, rfl⟩ |
        ⟨loop, l, readable, rfl, at_, runs, free, first, rfl⟩
      · exact extend (ih same)
      · have earlier := extend (ih was)
        rw [held] at earlier
        dsimp only
        rw [readable_fate]
        exact earlier
      · have loopRuns := (Service.loopRuns_iff _ loop).mpr ⟨l, at_, runs⟩
        exact ⟨events, [], rfl, first, by rw [canTake, loopRuns, free]; rfl⟩

/-- The event by which the fate of a connection was decided. -/
theorem exists_settles {events : List Event}
    (found : (new.after events).connections[connection]? = some c) (decided : c.isHeld = false) :
    ∃ before later, events = before ++ .settles connection :: later ∧
      (new.after before).connections[connection]? =
        some { c with fate := .held c.fate.readable } ∧
      c.fate = (new.after before).service.fate c.fate.readable := by
  induction events using List.reverseRecOn with
  | nil => cases found
  | append_singleton events last ih =>
      rw [after_concat] at found
      rcases connection_was (turn_step _ _) found with
        same | ⟨own, readable, rfl, was, held, rfl⟩ | ⟨loop, l, readable, _, _, _, _, _, rfl⟩
      · obtain ⟨before, later, rfl, was, how⟩ := ih same
        exact ⟨before, later ++ [last], by simp, was, how⟩
      · refine ⟨events, [], rfl, ?_, ?_⟩
        · dsimp only
          rw [readable_fate, ← held]
          exact was
        · dsimp only
          rw [readable_fate]
      · cases decided

/-- The moment of the decision: the loop of the connection had not been waited for to
its end, and the decision went by what the group was then. -/
theorem exists_decision {events : List Event}
    (found : (new.after events).connections[connection]? = some c) (decided : c.isHeld = false) :
    ∃ before later, events = before ++ .settles connection :: later ∧
      let then_ := new.after before
      then_.connections[connection]? = some { c with fate := .held c.fate.readable } ∧
      c.loop ∉ then_.returned ∧
      (c.fate = .unreadable ∨
        c.fate = .refused ∧ then_.service.group.draining = true ∨
        c.fate = .handed then_.service.group.tasks.length ∧
          then_.service.group.draining = false) := by
  obtain ⟨before, later, split, was, how⟩ := exists_settles found decided
  have sound : (new.after before).Sound := sound_new before
  refine ⟨before, later, split, was, ?_, ?_⟩
  · intro among
    have runs := sound.served.held connection _ was rfl
    cases runs.symm.trans (sound.watched.returned c.loop among).2
  · unfold Service.fate at how
    split at how
    · split at how
      · exact Or.inr (Or.inl ⟨how, by assumption⟩)
      · exact Or.inr (Or.inr ⟨how, Bool.eq_false_iff.mpr (by assumption)⟩)
    · exact Or.inl how

/-- A fate is never taken back. -/
theorem decided_after (found : r.connections[connection]? = some c)
    (decided : c.isHeld = false) (events : List Event) :
    (r.after events).connections[connection]? = some c := by
  induction events generalizing r with
  | nil => exact found
  | cons event rest ih =>
      rcases connection_stays (r.turn_step event) found with same | ⟨readable, _, held, _⟩
      · exact ih same
      · rw [(isHeld_iff c).mpr ⟨readable, held⟩] at decided
        cases decided

/-- A loop that has ended takes nothing more, and hands nothing over. -/
theorem connections_of_ended (sound : r.Sound) {l : Loop}
    (at_ : r.service.loops[c.loop]? = some l) (ended : r.service.loopRuns c.loop = false)
    {events : List Event} (found : (r.after events).connections[connection]? = some c) :
    r.connections[connection]? = some c := by
  induction events generalizing r l with
  | nil => exact found
  | cons event rest ih =>
      have turn := r.turn_step event
      obtain ⟨stopped, stays, _⟩ := (rebinds_turn turn sound.tracked.inside).loop_stays at_
      have gone := loopRuns_turn sound.tracked turn at_ ended
      rcases connection_was turn (ih (sound.step event) stays gone found) with
        same | ⟨own, readable, _, was, held, rfl⟩ | ⟨loop, l, readable, _, there, runs, _, _, rfl⟩
      · exact same
      · have going := sound.served.held connection own was ((isHeld_iff own).mpr ⟨_, held⟩)
        cases going.symm.trans ended
      · have going := (Service.loopRuns_iff _ loop).mpr ⟨l, there, runs⟩
        cases going.symm.trans ended

/-- A group that drains takes over no connection. -/
theorem connections_of_draining (sound : r.Sound) (drains : r.service.group.draining = true)
    {task : Nat} (handed : c.fate = .handed task) {events : List Event}
    (found : (r.after events).connections[connection]? = some c) :
    r.connections[connection]? = some c := by
  induction events generalizing r with
  | nil => exact found
  | cons event rest ih =>
      have turn := r.turn_step event
      have still := (signals_turn turn sound.tracked.inside).1 drains
      rcases connection_was turn (ih (sound.step event) still found) with
        same | ⟨own, readable, _, _, _, rfl⟩ | ⟨loop, l, readable, _, _, _, _, _, rfl⟩
      · exact same
      · cases drains.symm.trans (fate_eq_handed.mp handed).2.1
      · cases handed

theorem step_takes {loop : Nat} (free : r.canTake loop = true) (readable : Bool) :
    ∃ c : Connection, (r.step (.takes loop readable)).connections = r.connections ++ [c] ∧
      c.loop = loop ∧ c.id = r.service.drawId.1 ∧ c.fate = .held readable := by
  have runs := free
  rw [canTake, Bool.and_eq_true, Service.loopRuns_iff] at runs
  obtain ⟨⟨l, at_, _⟩, _⟩ := runs
  refine ⟨⟨loop, l.acceptor, r.service.take.1, r.service.take.2.1, .held readable⟩, ?_, rfl, rfl, rfl⟩
  simp only [step, take, at_, free, if_true]

theorem step_settles {readable : Bool} (found : r.connections[connection]? = some c)
    (held : c.fate = .held readable) :
    (r.step (.settles connection)).connections[connection]? =
      some { c with fate := r.service.fate readable } := by
  have within := (List.getElem?_eq_some_iff.mp found).1
  obtain ⟨arrivals, tasks, settled, _⟩ := r.service.settle_eq c readable
  simp only [step, settle, found, held, settled]
  exact List.getElem?_set_self within

theorem step_calls {task : Nat} (found : r.connections[connection]? = some c)
    (handed : c.task? = some task) (runs : r.service.group.isRunning task = true)
    (uncalled : r.hasCalled connection = false) :
    (r.step (.calls connection)).calls = r.calls ++ [⟨c.acceptor, connection⟩] := by
  have running := runningTask?_eq_some.mpr ⟨c, found, handed, runs⟩
  simp [step, call, found, running, uncalled]

/-- A connection that was handed over and has not been served yet is served with the
next turn of its task, unless the group was cancelled. -/
theorem called_or_calls (sound : r.Sound) (found : r.connections[connection]? = some c)
    {task : Nat} (handed : c.fate = .handed task) :
    r.hasCalled connection = true ∨ r.service.group.cancelled = true ∨
      (r.step (.calls connection)).calls = r.calls ++ [⟨c.acceptor, connection⟩] := by
  rw [← task?_eq_some] at handed
  cases uncalled : r.hasCalled connection with
  | true => exact Or.inl rfl
  | false =>
      rcases sound.served.live connection task c found handed with
        runs | cancelled | ⟨answer, among⟩
      · exact Or.inr (Or.inr (step_calls found handed runs uncalled))
      · exact Or.inr (Or.inl cancelled)
      · cases uncalled.symm.trans (sound.served.answered _ among)

/-- What a handler comes back with raises no signal and changes no binding. -/
theorem step_answers (r : Reception) (connection : Nat) (answer : Answer) :
    let next := r.step (.answers connection answer)
    next.service.loops = r.service.loops ∧ next.service.acceptors = r.service.acceptors ∧
      next.service.group.draining = r.service.group.draining ∧
      ∀ token, next.service.group.tokenCancelled token =
        r.service.group.tokenCancelled token := by
  intro next
  have turn : r.Turn (.answers connection answer) next := r.turn_step _
  clear_value next
  cases turn with
  | idle => exact ⟨rfl, rfl, rfl, fun _ => rfl⟩
  | answers =>
      refine ⟨rfl, rfl, Group.finish_draining _ _ _, ?_⟩
      intro token
      simp [Group.tokenCancelled, withService, service, Service.finish]

/-- It ends no task but that of its connection. -/
theorem isRunning_answers (tracked : r.Tracked) (answer : Answer) {task : Nat}
    (among : task ∈ r.tasks)
    (foreign : ∀ c, r.connections[connection]? = some c → c.task? ≠ some task) :
    (r.step (.answers connection answer)).service.group.isRunning task =
      r.service.group.isRunning task := by
  rcases isRunning_turn (r.turn_step (.answers connection answer)) tracked.inside among with
    same | ⟨_, ends⟩
  · exact same
  · cases ends with
    | answered found handed _ => exact absurd handed (foreign _ found)

/-! ## The whole run -/

/--
A new service through any events: acceptors are bound, given up and bound again,
connections come in and are dialled, handlers come back, tasks are spawned and
end, the group is shut down and the service closed, all in any order.

The numbers given out are the first ones of the counter, so that no session has
the number of another before 2^64 of them were made.  A loop that can take a
connection makes one record of it, each record comes from one such event, and
the next turn of the loop decides on it: the connection is dropped if its
addresses cannot be read or the group drains at that moment, and handed over
to a new task of the group otherwise.  A decision is never taken back.

A handler is called once at most for a connection, only for one that was handed
over, and it is the handler of the acceptor whose loop took it.  It is called
with the first turn of the task, which comes unless the group was cancelled
before.  The tasks of loops and connections are different tasks of the group.

When the unbind has returned that waited for a loop, nothing more becomes of
that loop, and no connection is handed over when the group drains.  Whatever
a handler comes back with, no other task ends, no signal is raised and no
binding changes; a loop runs until it is told to stop, and a connection is
served until its handler comes back or the group is cancelled.
-/
theorem connections_conserved (events : List Event) :
    let r := new.after events
    (r.ids.Perm ((List.range r.ids.length).map SessionId.after) ∧
      (r.ids.length ≤ Nat.pow 2 64 → r.ids.Nodup)) ∧
    (∀ loop readable, r.canTake loop = true →
      ∃ c : Connection, (r.step (.takes loop readable)).connections = r.connections ++ [c] ∧
        c.loop = loop ∧ c.id = r.service.drawId.1 ∧ c.fate = .held readable) ∧
    (∀ (connection : Nat) (c : Connection), r.connections[connection]? = some c →
      (∃ l, r.service.loops[c.loop]? = some l ∧ l.acceptor = c.acceptor) ∧
      (∃ before later, events = before ++ .takes c.loop c.fate.readable :: later ∧
        connection = (new.after before).connections.length ∧
        (new.after before).canTake c.loop = true) ∧
      (∀ readable, c.fate = .held readable →
        (r.step (.settles connection)).connections[connection]? =
          some { c with fate := r.service.fate readable }) ∧
      (c.isHeld = false →
        (∀ more, (r.after more).connections[connection]? = some c) ∧
        ∃ before later, events = before ++ .settles connection :: later ∧
          let then_ := new.after before
          then_.connections[connection]? = some { c with fate := .held c.fate.readable } ∧
          c.loop ∉ then_.returned ∧
          (c.fate = .unreadable ∨
            c.fate = .refused ∧ then_.service.group.draining = true ∨
            c.fate = .handed then_.service.group.tasks.length ∧
              then_.service.group.draining = false))) ∧
    ((r.calls.map Call.connection).Nodup ∧
      (∀ call ∈ r.calls, ∃ c task, r.connections[call.connection]? = some c ∧
        c.acceptor = call.handler ∧ c.fate = .handed task) ∧
      ∀ (connection task : Nat) (c : Connection), r.connections[connection]? = some c →
        c.fate = .handed task →
        r.hasCalled connection = true ∨ r.service.group.cancelled = true ∨
          (r.step (.calls connection)).calls = r.calls ++ [⟨c.acceptor, connection⟩]) ∧
    (r.tasks.Nodup ∧ ∀ task ∈ r.tasks, task < r.service.group.tasks.length) ∧
    (∀ more (connection : Nat) (c : Connection),
      (r.after more).connections[connection]? = some c →
      (c.loop ∈ r.returned → r.connections[connection]? = some c) ∧
      (r.service.group.draining = true → ∀ task, c.fate = .handed task →
        r.connections[connection]? = some c)) ∧
    (∀ (connection : Nat) (answer : Answer),
      let next := r.step (.answers connection answer)
      next.service.loops = r.service.loops ∧ next.service.acceptors = r.service.acceptors ∧
      next.service.group.draining = r.service.group.draining ∧
      (∀ token, next.service.group.tokenCancelled token =
        r.service.group.tokenCancelled token) ∧
      ∀ task ∈ r.tasks, (∀ c, r.connections[connection]? = some c → c.task? ≠ some task) →
        next.service.group.isRunning task = r.service.group.isRunning task) ∧
    (∀ (loop : Nat) (l : Loop), r.service.loops[loop]? = some l →
      r.service.isStopping l = false → r.service.group.isRunning l.task = true) ∧
    ∀ (connection task : Nat) (c : Connection), r.connections[connection]? = some c →
      c.fate = .handed task → r.service.group.cancelled = false →
      (∀ answer, (connection, answer) ∉ r.answers) →
      r.service.group.isRunning task = true := by
  intro r
  have sound : r.Sound := sound_new events
  refine ⟨⟨sound.numbered.first, sound.numbered.nodup⟩, fun _ readable free =>
    step_takes free readable, ?records, ?calls, ⟨sound.tracked.distinct, sound.tracked.inside⟩,
    ?later, ?answers, ?loops, ?sessions⟩
  case records =>
    intro connection c found
    refine ⟨sound.served.origin connection c found, exists_takes found,
      fun _ held => step_settles found held, fun decided =>
        ⟨fun more => decided_after found decided more, exists_decision found decided⟩⟩
  case calls =>
    refine ⟨sound.served.once, ?_, fun _ _ _ found handed => called_or_calls sound found handed⟩
    intro call among
    obtain ⟨c, task, found, mine, handed⟩ := sound.served.own call among
    exact ⟨c, task, found, mine, (task?_eq_some c task).mp handed⟩
  case later =>
    intro more connection c found
    refine ⟨?_, fun drains task handed => connections_of_draining sound drains handed found⟩
    intro among
    obtain ⟨released, ended⟩ := sound.watched.returned c.loop among
    obtain ⟨l, at_, _⟩ := (sound.bound.released c.loop).mp released
    exact connections_of_ended sound at_ ended found
  case answers =>
    intro connection answer next
    obtain ⟨loops, acceptors, draining, tokens⟩ := r.step_answers connection answer
    exact ⟨loops, acceptors, draining, tokens, fun task among foreign =>
      isRunning_answers sound.tracked answer among foreign⟩
  case loops =>
    intro loop l found untold
    rcases sound.watched.steady loop l found with runs | told
    · exact runs
    · cases untold.symm.trans told
  case sessions =>
    intro connection task c found handed calm unanswered
    rcases sound.served.live connection task c found ((task?_eq_some c task).mpr handed) with
      runs | cancelled | ⟨answer, among⟩
    · exact runs
    · cases calm.symm.trans cancelled
    · exact absurd among (unanswered answer)

/-- A handler that panics, and a connection that is taken just before the group
drains: the loop outlives the one and drops the other. -/
example :
    let r := new.after
      [.aside .acceptor, .aside (.listens 0 (.v4 127 0 0 1 2022)), .takes 0 true, .settles 0,
        .calls 0, .answers 0 .panicked, .takes 0 true, .aside (.operation .drain), .stops 0,
        .settles 1]
    r.connections.map Connection.fate = [.handed 1, .refused] ∧ r.calls = [⟨0, 0⟩] ∧
      r.service.loopRuns 0 = true ∧ (r.step (.stops 0)).service.loopRuns 0 = false := by
  refine ⟨rfl, rfl, rfl, rfl⟩

end Reception

end NetconfGate.Channel
