import NetconfGate.Proofs.Channel.Reception.Loops
import Mathlib.Data.List.Induction

/-!
# The fates of connections

A connection is taken once, by a loop that runs, and its fate is decided once,
with the next turn of that loop. Neither can happen when an unbind has returned
for the loop, and none is handed over any more when the group drains. A handler
is called once at most for a connection, and what it comes back with ends the
task of that connection and nothing else.
-/

namespace NetconfGate.Channel

/-- Whether the addresses of the connection could be read. -/
def Fate.readable : Fate → Bool
  | held readable => readable
  | unreadable => false
  | refused => true
  | handed _ => true

theorem readable_fate (s : Service) (readable : Bool) : (s.fate readable).readable = readable := by
  unfold Service.fate
  cases readable <;> cases s.group.draining <;> rfl

namespace Reception

variable {r later : Reception} {event : Event}

theorem fate_ne_held (s : Service) (readable other : Bool) : s.fate readable ≠ .held other := by
  unfold Service.fate
  split
  · split <;> simp
  · simp

/-- A connection is left alone or gets its fate. -/
theorem connection_stays (turn : r.Turn event later) {connection : Nat} {c : Connection}
    (found : r.connections[connection]? = some c) :
    later.connections[connection]? = some c ∨
      ∃ readable, event = .settles connection ∧ c.fate = .held readable ∧
        later.connections[connection]? = some { c with fate := r.service.fate readable } := by
  have within := (List.getElem?_eq_some_iff.mp found).1
  cases turn with
  | takes => exact Or.inl ((List.getElem?_append_left within).trans found)
  | @settles index own readable at_ held =>
      by_cases same : index = connection
      · subst same
        cases found.symm.trans at_
        exact Or.inr ⟨readable, rfl, held, List.getElem?_set_self within⟩
      · exact Or.inl ((List.getElem?_set_ne same).trans found)
  | _ => exact Or.inl found

/-- A connection was left alone, has got its fate, or was just taken. -/
theorem connection_was (turn : r.Turn event later) {connection : Nat} {c : Connection}
    (found : later.connections[connection]? = some c) :
    r.connections[connection]? = some c ∨
      (∃ before readable, event = .settles connection ∧
        r.connections[connection]? = some before ∧ before.fate = .held readable ∧
        c = { before with fate := r.service.fate readable }) ∨
      ∃ loop l readable, event = .takes loop readable ∧ r.service.loops[loop]? = some l ∧
        r.service.group.isRunning l.task = true ∧ r.holds loop = false ∧
        connection = r.connections.length ∧
        c = ⟨loop, l.acceptor, r.service.take.1, r.service.take.2.1, .held readable⟩ := by
  cases turn with
  | @takes loop l readable at_ runs free =>
      rcases Nat.lt_trichotomy connection r.connections.length with inside | rfl | beyond
      · exact Or.inl ((List.getElem?_append_left inside).symm.trans found)
      · have last := List.getElem?_concat_length.symm.trans found
        exact Or.inr (Or.inr ⟨loop, l, readable, rfl, at_, runs, free, rfl,
          (Option.some.inj last).symm⟩)
      · have none_ : (r.connections ++
            [(⟨loop, l.acceptor, r.service.take.1, r.service.take.2.1, .held readable⟩ :
              Connection)])[connection]? = none :=
          List.getElem?_eq_none (by rw [List.length_append]; exact beyond)
        cases none_.symm.trans found
  | @settles index before readable at_ held =>
      by_cases same : index = connection
      · subst same
        have within := (List.getElem?_eq_some_iff.mp at_).1
        have now := (List.getElem?_set_self within).symm.trans found
        exact Or.inr (Or.inl ⟨before, readable, rfl, at_, held, (Option.some.inj now).symm⟩)
      · exact Or.inl ((List.getElem?_set_ne same).symm.trans found)
  | _ => exact Or.inl found

/-- A handler is called for a connection that was handed over and not yet called
for. -/
theorem calls_turn (turn : r.Turn event later) :
    later.calls = r.calls ∨
      ∃ connection task c, event = .calls connection ∧ r.connections[connection]? = some c ∧
        c.task? = some task ∧ r.hasCalled connection = false ∧
        later.calls = r.calls ++ [⟨c.acceptor, connection⟩] := by
  cases turn with
  | @calls connection task c found handed _ uncalled =>
      exact Or.inr ⟨connection, task, c, rfl, found, handed, uncalled, rfl⟩
  | _ => exact Or.inl rfl

theorem answers_turn (turn : r.Turn event later) :
    later.answers = r.answers ∨
      ∃ connection answer, event = .answers connection answer ∧
        r.hasCalled connection = true ∧ later.answers = r.answers ++ [(connection, answer)] := by
  cases turn with
  | @answers connection task c answer _ _ _ called =>
      exact Or.inr ⟨connection, answer, rfl, called, rfl⟩
  | _ => exact Or.inl rfl

/-- A handler that comes back is noted, if its task runs. -/
theorem answer_turn {connection : Nat} {answer : Answer}
    (turn : r.Turn (.answers connection answer) later) :
    later = r ∨ (connection, answer) ∈ later.answers := by
  cases turn with
  | idle => exact Or.inl rfl
  | answers => exact Or.inr (List.mem_append_right _ List.mem_cons_self)

theorem hasCalled_iff (connection : Nat) :
    r.hasCalled connection = true ↔ connection ∈ r.calls.map Call.connection := by
  simp [hasCalled]

theorem holds_of_held {connection : Nat} {c : Connection}
    (found : r.connections[connection]? = some c) (held : c.isHeld = true) :
    r.holds c.loop = true := by
  rw [holds, List.any_eq_true]
  exact ⟨c, List.mem_of_getElem? found, by simp [held]⟩

theorem isHeld_iff (c : Connection) : c.isHeld = true ↔ ∃ readable, c.fate = .held readable := by
  unfold Connection.isHeld
  cases c.fate <;> simp

theorem task?_eq_some (c : Connection) (task : Nat) :
    c.task? = some task ↔ c.fate = .handed task := by
  unfold Connection.task?
  cases c.fate <;> simp

theorem fate_eq_handed {s : Service} {readable : Bool} {task : Nat} :
    s.fate readable = .handed task ↔
      readable = true ∧ s.group.draining = false ∧ task = s.group.tasks.length := by
  unfold Service.fate
  cases readable <;> cases s.group.draining <;> simp [eq_comm]

/-! ## What holds of every reception -/

/-- What is known of the connections, of the calls for them and of what came of
these. -/
structure Served (r : Reception) : Prop where
  origin : ∀ (connection : Nat) (c : Connection), r.connections[connection]? = some c →
    ∃ l, r.service.loops[c.loop]? = some l ∧ l.acceptor = c.acceptor
  held : ∀ (connection : Nat) (c : Connection), r.connections[connection]? = some c →
    c.isHeld = true → r.service.loopRuns c.loop = true
  once : (r.calls.map Call.connection).Nodup
  own : ∀ call ∈ r.calls, ∃ c task, r.connections[call.connection]? = some c ∧
    c.acceptor = call.handler ∧ c.task? = some task
  answered : ∀ pair ∈ r.answers, r.hasCalled pair.1 = true
  live : ∀ (connection task : Nat) (c : Connection), r.connections[connection]? = some c →
    c.task? = some task → r.service.group.isRunning task = true ∨
      r.service.group.cancelled = true ∨ ∃ answer, (connection, answer) ∈ r.answers

theorem served_new : new.Served := by
  refine ⟨?_, ?_, .nil, ?_, ?_, ?_⟩ <;> simp [new]

namespace Served

theorem origin_turn (served : r.Served) (turn : r.Turn event later)
    (rebinds : r.Rebinds later) {connection : Nat} {c : Connection}
    (found : later.connections[connection]? = some c) :
    ∃ l, later.service.loops[c.loop]? = some l ∧ l.acceptor = c.acceptor := by
  have stays {loop : Nat} {l : Loop} (at_ : r.service.loops[loop]? = some l) :
      ∃ now, later.service.loops[loop]? = some now ∧ now.acceptor = l.acceptor := by
    obtain ⟨stopped, now, _⟩ := rebinds.loop_stays at_
    exact ⟨_, now, rfl⟩
  have kept {before : Connection} (was : r.connections[connection]? = some before) :
      ∃ now, later.service.loops[before.loop]? = some now ∧
        now.acceptor = before.acceptor := by
    obtain ⟨l, at_, mine⟩ := served.origin connection before was
    obtain ⟨now, there, same⟩ := stays at_
    exact ⟨now, there, same.trans mine⟩
  rcases connection_was turn found with
    same | ⟨before, readable, _, was, _, rfl⟩ | ⟨loop, l, readable, _, at_, _, _, _, rfl⟩
  · exact kept same
  · obtain ⟨now, there, mine⟩ := kept was
    exact ⟨now, there, mine⟩
  · exact stays at_

theorem held_turn (served : r.Served) (tracked : r.Tracked) (turn : r.Turn event later)
    {connection : Nat} {c : Connection} (found : later.connections[connection]? = some c)
    (held : c.isHeld = true) : later.service.loopRuns c.loop = true := by
  have runs {loop : Nat} {l : Loop} (at_ : r.service.loops[loop]? = some l)
      (ran : r.service.group.isRunning l.task = true) (busy : ¬r.Ends event l.task) :
      later.service.loopRuns loop = true := by
    obtain ⟨stopped, now, _⟩ := (rebinds_turn turn tracked.inside).loop_stays at_
    refine (Service.loopRuns_iff _ _).mpr ⟨_, now, ?_⟩
    rcases isRunning_turn turn tracked.inside (loop_task_mem at_) with same | ⟨_, ends⟩
    · exact same.trans ran
    · exact absurd ends busy
  rcases connection_was turn found with
    same | ⟨before, readable, _, _, _, rfl⟩ | ⟨loop, l, readable, rfl, at_, ran, _, _, rfl⟩
  · obtain ⟨l, at_, ran⟩ := (Service.loopRuns_iff _ _).mp (served.held connection c same held)
    refine runs at_ ran fun ends => ?_
    have free := (ends.of_loop tracked at_).2
    rw [holds_of_held same held] at free
    cases free
  · obtain ⟨other, decided⟩ := (isHeld_iff _).mp held
    exact absurd decided (fate_ne_held _ _ _)
  · exact runs at_ ran nofun

theorem live_turn (served : r.Served) (tracked : r.Tracked) (turn : r.Turn event later)
    {connection task : Nat} {c : Connection} (found : later.connections[connection]? = some c)
    (handed : c.task? = some task) :
    later.service.group.isRunning task = true ∨ later.service.group.cancelled = true ∨
      ∃ answer, (connection, answer) ∈ later.answers := by
  rcases connection_was turn found with
    same | ⟨before, readable, rfl, was, held, rfl⟩ | ⟨loop, l, readable, _, _, _, _, _, rfl⟩
  · rcases served.live connection task c same handed with runs | cancelled | ⟨answer, among⟩
    · rcases isRunning_turn turn tracked.inside (connection_task_mem same handed) with
        still | ⟨gone, ends⟩
      · exact Or.inl (still.trans runs)
      · rcases ends.of_connection tracked same handed with ⟨answer, rfl, _⟩ | cancelled
        · rcases answer_turn turn with rfl | noted
          · rw [gone] at runs
            cases runs
          · exact Or.inr (Or.inr ⟨answer, noted⟩)
        · exact Or.inr (Or.inl ((signals_turn turn tracked.inside).2 cancelled))
    · exact Or.inr (Or.inl ((signals_turn turn tracked.inside).2 cancelled))
    · refine Or.inr (Or.inr ⟨answer, ?_⟩)
      rcases answers_turn turn with kept | ⟨_, _, _, _, more⟩
      · exact kept ▸ among
      · exact more ▸ List.mem_append_left _ among
  · have decided := (task?_eq_some _ _).mp handed
    cases turn with
    | idle =>
        have undecided := Option.some.inj (was.symm.trans found)
        rw [undecided] at held
        exact absurd held (fate_ne_held _ _ _)
    | @settles _ own readable_ at_ held_ =>
        cases was.symm.trans at_
        cases held.symm.trans held_
        obtain ⟨arrivals, tasks, settled, how⟩ := r.service.settle_eq before readable
        rcases how with ⟨_, dropped⟩ | ⟨rfl, _, taken⟩
        · exact absurd decided (dropped task)
        · cases taken.symm.trans decided
          refine Or.inl ?_
          rw [settled]
          simp [service, withService, Group.isRunning]
  · cases handed

theorem own_turn (served : r.Served) (turn : r.Turn event later) {call : Call}
    (among : call ∈ later.calls) :
    ∃ c task, later.connections[call.connection]? = some c ∧ c.acceptor = call.handler ∧
      c.task? = some task := by
  have kept {connection task : Nat} {c : Connection}
      (found : r.connections[connection]? = some c) (handed : c.task? = some task) :
      later.connections[connection]? = some c := by
    rcases connection_stays turn found with same | ⟨readable, _, held, _⟩
    · exact same
    · cases held.symm.trans ((task?_eq_some c task).mp handed)
  have before (was : call ∈ r.calls) : ∃ c task, later.connections[call.connection]? = some c ∧
      c.acceptor = call.handler ∧ c.task? = some task := by
    obtain ⟨c, task, found, mine, handed⟩ := served.own call was
    exact ⟨c, task, kept found handed, mine, handed⟩
  rcases calls_turn turn with same | ⟨connection, task, c, _, found, handed, _, more⟩
  · exact before (same ▸ among)
  · rw [more] at among
    rcases List.mem_append.mp among with was | now
    · exact before was
    · cases List.mem_singleton.mp now
      exact ⟨c, task, kept found handed, rfl, handed⟩

theorem turn (served : r.Served) (tracked : r.Tracked) (turn : r.Turn event later) :
    later.Served where
  origin _ _ := served.origin_turn turn (rebinds_turn turn tracked.inside)
  held _ _ := served.held_turn tracked turn
  once := by
    rcases calls_turn turn with same | ⟨connection, task, c, _, _, _, uncalled, more⟩
    · rw [same]
      exact served.once
    · have fresh : connection ∉ r.calls.map Call.connection := by
        rw [← hasCalled_iff, uncalled]
        exact Bool.false_ne_true
      rw [more, List.map_append]
      exact (List.perm_append_singleton connection _).nodup_iff.mpr
        (List.nodup_cons.mpr ⟨fresh, served.once⟩)
  own _ := served.own_turn turn
  answered pair among := by
    have called (was : r.hasCalled pair.1 = true) : later.hasCalled pair.1 = true := by
      rw [hasCalled_iff] at was ⊢
      rcases calls_turn turn with same | ⟨_, _, _, _, _, _, _, more⟩
      · rw [same]
        exact was
      · rw [more, List.map_append]
        exact List.mem_append_left _ was
    rcases answers_turn turn with same | ⟨connection, answer, _, now, more⟩
    · exact called (served.answered pair (same ▸ among))
    · rw [more] at among
      rcases List.mem_append.mp among with was | last
      · exact called (served.answered pair was)
      · cases List.mem_singleton.mp last
        exact called now
  live _ _ _ := served.live_turn tracked turn

end Served

/-- All of it. -/
structure Sound (r : Reception) : Prop where
  numbered : r.Numbered
  tracked : r.Tracked
  bound : r.Bound
  watched : r.Watched
  served : r.Served

theorem Sound.step (sound : r.Sound) (event : Event) : (r.step event).Sound := by
  have turn := r.turn_step event
  exact ⟨sound.numbered.turn turn sound.tracked.inside, sound.tracked.turn turn,
    sound.bound.turn (rebinds_turn turn sound.tracked.inside),
    sound.watched.turn sound.tracked sound.bound turn, sound.served.turn sound.tracked turn⟩

theorem sound_after (sound : r.Sound) (events : List Event) : (r.after events).Sound := by
  induction events generalizing r with
  | nil => exact sound
  | cons event rest ih => exact ih (sound.step event)

theorem sound_new (events : List Event) : (new.after events).Sound :=
  sound_after ⟨numbered_new, tracked_new, bound_new, watched_new, served_new⟩ events

end Reception

end NetconfGate.Channel
