import NetconfGate.Proofs.Channel.Entrance.Sound

/-!
# What an event leaves alone

Each thing at an entrance is ended by events of its own and by the signals of the
group alone: a binding by the unbind of its acceptor, a session by the answer of its
handler, and any other task by its end. An address on which one loop alone listens is
free when the loop has ended, until the system gives it to somebody.
-/

namespace NetconfGate.Channel

namespace Reception

variable {r later : Reception} {event : Event}

/-- A task that is none of a loop and of a connection is left alone, or its end is told
aside. -/
theorem isRunning_turn_of_other (turn : r.Turn event later)
    (spared : Entrance.isAside event = true) {task : Nat}
    (runs : r.service.group.isRunning task = true) (other : task ∉ r.tasks) :
    later.service.group.isRunning task = true ∨
      ∃ outcome, event = .aside (.operation (.ends task outcome)) := by
  have inside := Group.lt_length_of_isRunning runs
  have finished {ended : Nat} (among : ended ∈ r.tasks) (outcome : Outcome) :
      (r.service.group.finish ended outcome).isRunning task = true := by
    have different : task ≠ ended := by
      rintro rfl
      exact other among
    rw [Group.isRunning_finish, runs]
    simpa using different
  cases turn with
  | @aside event isAside =>
      by_cases ends : ∃ outcome, event = .operation (.ends task outcome)
      · obtain ⟨outcome, rfl⟩ := ends
        exact Or.inr ⟨outcome, rfl⟩
      · have avoids : r.service.Avoids (r.course.step event).service [task] := by
          refine avoids_aside (by simpa using inside) ?_ isAside spared
          intro ended outcome same among
          cases List.mem_singleton.mp among
          exact ends ⟨outcome, same⟩
        refine Or.inl ?_
        rw [Group.isRunning_iff] at runs ⊢
        exact (avoids.tasks task List.mem_cons_self).trans runs
  | stops found => exact Or.inl (finished (loop_task_mem found) _)
  | settles =>
      rename_i connection c readable _ _
      obtain ⟨arrivals, tasks, settled, how⟩ := r.service.settle_eq c readable
      rw [settled]
      rcases how with ⟨rfl, _⟩ | ⟨rfl, _, _⟩
      · exact Or.inl runs
      · exact Or.inl (Group.isRunning_append _ _ runs)
  | answers found handed => exact Or.inl (finished (connection_task_mem found handed) _)
  | drops found handed => exact Or.inl (finished (connection_task_mem found handed) _)
  | _ => exact Or.inl runs

end Reception

namespace Entrance

variable {e : Entrance} {event : Event} {events : List Event}

/-- A loop stays what it is, but for its signal. -/
theorem Sound.loop_step (sound : e.Sound) {loop : Nat} {l : Loop}
    (found : e.service.loops[loop]? = some l) (event : Event) :
    ∃ stopped, (e.step event).service.loops[loop]? = some { l with stopped := stopped } ∧
      (l.stopped = true → stopped = true) := by
  have within := (List.getElem?_eq_some_iff.mp found).1
  have move := e.move_step event
  generalize e.step event = later at move ⊢
  cases move with
  | @aside event spared =>
      have turn := e.reception.turn_step event
      exact (Reception.rebinds_turn turn sound.reception.tracked.inside).loop_stays found
  | binds => exact ⟨l.stopped, (List.getElem?_append_left within).trans found, id⟩
  | loses => exact ⟨l.stopped, (List.getElem?_append_left within).trans found, id⟩
  | _ => exact ⟨l.stopped, found, id⟩

theorem Sound.loop_after (sound : e.Sound) {loop : Nat} {l : Loop}
    (found : e.service.loops[loop]? = some l) (events : List Event) :
    ∃ stopped, (e.after events).service.loops[loop]? = some { l with stopped := stopped } ∧
      (l.stopped = true → stopped = true) := by
  induction events generalizing e l with
  | nil => exact ⟨l.stopped, found, id⟩
  | cons event rest ih =>
      obtain ⟨first, there, up⟩ := sound.loop_step found event
      obtain ⟨last, at_, more⟩ := ih (sound.step event) there
      exact ⟨last, at_, more ∘ up⟩

/-- An acceptor stays bound to its loop until it is unbound. -/
theorem Sound.bound_step (sound : e.Sound) {acceptor loop : Nat}
    (bound : e.service.acceptors[acceptor]? = some (some loop)) (event : Event) :
    (e.step event).service.acceptors[acceptor]? = some (some loop) ∨
      event = .aside (.unbinds acceptor) := by
  have within := (List.getElem?_eq_some_iff.mp bound).1
  have move := e.move_step event
  generalize e.step event = later at move ⊢
  cases move with
  | @aside event spared =>
      have turn := e.reception.turn_step event
      change (e.reception.step event).service.acceptors[acceptor]? = some (some loop) ∨ _
      rcases Reception.bindings_turn turn spared sound.reception.tracked.inside with
        ⟨_, same | more⟩ | ⟨other, _, rfl, _, acceptors, _⟩
      · rw [same]
        exact Or.inl bound
      · rw [more]
        exact Or.inl ((List.getElem?_append_left within).trans bound)
      · rw [acceptors]
        by_cases own : other = acceptor
        · exact Or.inr (own ▸ rfl)
        · exact Or.inl ((List.getElem?_set_ne own).trans bound)
  | @binds call address c found stage isOpen unbound =>
      have different : c.acceptor ≠ acceptor := by
        rintro rfl
        exact sound.reception.bound.unbound unbound loop bound
      exact Or.inl ((List.getElem?_set_ne different).trans bound)
  | _ => exact Or.inl bound

theorem Sound.bound_after (sound : e.Sound) {acceptor loop : Nat}
    (bound : e.service.acceptors[acceptor]? = some (some loop)) (events : List Event) :
    (e.after events).service.acceptors[acceptor]? = some (some loop) ∨
      .aside (.unbinds acceptor) ∈ events := by
  induction events generalizing e with
  | nil => exact Or.inl bound
  | cons event rest ih =>
      rcases sound.bound_step bound event with still | rfl
      · exact (ih (sound.step event) still).imp_right (List.mem_cons_of_mem _)
      · exact Or.inr List.mem_cons_self

/-- An acceptor is bound to a loop of before only if it was so before. -/
theorem Sound.bound_before (sound : e.Sound) {acceptor loop : Nat}
    (bound : (e.after events).service.acceptors[acceptor]? = some (some loop))
    (old : loop < e.service.loops.length) :
    e.service.acceptors[acceptor]? = some (some loop) := by
  have found : e.service.loops[loop]? = some e.service.loops[loop] :=
    List.getElem?_eq_getElem old
  obtain ⟨stopped, there, up⟩ := sound.loop_after found events
  obtain ⟨l, at_, own, untold⟩ := (sound.after events).reception.bound.bound acceptor loop bound
  cases there.symm.trans at_
  have before : e.service.loops[loop].stopped = false := by
    cases told : e.service.loops[loop].stopped with
    | false => rfl
    | true => cases untold.symm.trans (up told)
  rw [← own]
  exact sound.reception.bound.active loop e.service.loops[loop] found before

/-- A loop that is bound runs, unless the group drains. -/
theorem Sound.loopRuns_of_bound (sound : e.Sound) {acceptor loop : Nat}
    (bound : e.service.acceptors[acceptor]? = some (some loop))
    (isOpen : e.service.group.draining = false) : e.service.loopRuns loop = true := by
  obtain ⟨l, found, _, untold⟩ := sound.reception.bound.bound acceptor loop bound
  rcases sound.reception.watched.steady loop l found with runs | told
  · exact (Service.loopRuns_iff _ _).mpr ⟨l, found, runs⟩
  · have silent : e.reception.service.isStopping l = false := by
      rw [Service.isStopping, untold]
      exact isOpen
    cases silent.symm.trans told

/-! ## Sessions -/

theorem connection_step {connection : Nat} {c : Connection}
    (found : e.reception.connections[connection]? = some c) (decided : c.isHeld = false)
    (event : Event) : (e.step event).reception.connections[connection]? = some c := by
  have move := e.move_step event
  generalize e.step event = later at move ⊢
  cases move with
  | @aside event spared =>
      rcases Reception.connection_stays (e.reception.turn_step event) found with
        same | ⟨readable, _, held, _⟩
      · exact same
      · rw [(Reception.isHeld_iff c).mpr ⟨readable, held⟩] at decided
        cases decided
  | _ => exact found

theorem connection_after {connection : Nat} {c : Connection}
    (found : e.reception.connections[connection]? = some c) (decided : c.isHeld = false)
    (events : List Event) : (e.after events).reception.connections[connection]? = some c := by
  induction events generalizing e with
  | nil => exact found
  | cons event rest ih => exact ih (connection_step found decided event)

theorem answers_step {pair : Nat × Answer} (among : pair ∈ (e.step event).reception.answers) :
    pair ∈ e.reception.answers ∨ event = .aside (.answers pair.1 pair.2) := by
  have move := e.move_step event
  generalize e.step event = later at move among
  cases move with
  | @aside event spared =>
      rcases Reception.answers_turn (e.reception.turn_step event) with
        same | ⟨connection, answer, rfl, _, more⟩
      · exact Or.inl (same ▸ among)
      · change pair ∈ (e.reception.step _).answers at among
        rw [more] at among
        rcases List.mem_append.mp among with before | last
        · exact Or.inl before
        · cases List.mem_singleton.mp last
          exact Or.inr rfl
  | _ => exact Or.inl among

theorem answers_after {pair : Nat × Answer} (among : pair ∈ (e.after events).reception.answers) :
    pair ∈ e.reception.answers ∨ .aside (.answers pair.1 pair.2) ∈ events := by
  induction events generalizing e with
  | nil => exact Or.inl among
  | cons event rest ih =>
      rcases ih among with before | later
      · rcases answers_step before with same | rfl
        · exact Or.inl same
        · exact Or.inr List.mem_cons_self
      · exact Or.inr (List.mem_cons_of_mem _ later)

/-- A session goes on until its handler comes back or the group is cancelled. -/
theorem Sound.session_after (sound : e.Sound) {connection task : Nat} {c : Connection}
    (found : e.reception.connections[connection]? = some c) (handed : c.fate = .handed task)
    (unanswered : ∀ answer, (connection, answer) ∉ e.reception.answers) (events : List Event) :
    (e.after events).service.group.isRunning task = true ∨
      (e.after events).service.group.cancelled = true ∨
      ∃ answer, .aside (.answers connection answer) ∈ events := by
  have decided : c.isHeld = false := by rw [Connection.isHeld, handed]
  have there := connection_after found decided events
  rcases (sound.after events).reception.served.live connection task c there
      ((Reception.task?_eq_some c task).mpr handed) with runs | cancelled | ⟨answer, among⟩
  · exact Or.inl runs
  · exact Or.inr (Or.inl cancelled)
  · rcases answers_after among with before | now
    · exact absurd before (unanswered answer)
    · exact Or.inr (Or.inr ⟨answer, now⟩)

theorem Sound.task_step (sound : e.Sound) {task : Nat}
    (runs : e.service.group.isRunning task = true) (other : task ∉ e.reception.tasks)
    (event : Event) :
    (e.step event).service.group.isRunning task = true ∧ task ∉ (e.step event).reception.tasks ∨
      ∃ outcome, event = .aside (.aside (.operation (.ends task outcome))) := by
  have inside : task < e.reception.service.group.tasks.length := Group.lt_length_of_isRunning runs
  have started {l : Loop} (own : l.task = e.reception.service.group.tasks.length) :
      task ∉ (e.reception.service.loops ++ [l]).map Loop.task ++
        e.reception.connections.filterMap Connection.task? := by
    rw [List.map_append, List.append_assoc]
    intro among
    rcases List.mem_cons.mp (List.perm_middle.mem_iff.mp among) with same | before
    · omega
    · exact other before
  have move := e.move_step event
  generalize e.step event = later at move ⊢
  cases move with
  | @aside event spared =>
      have turn := e.reception.turn_step event
      rcases Reception.isRunning_turn_of_other turn spared runs other with still | ⟨outcome, rfl⟩
      · refine Or.inl ⟨still, fun among => ?_⟩
        rcases Reception.tasks_turn turn sound.reception.tracked.inside with
          ⟨kept, _⟩ | ⟨more, _⟩
        · exact other (kept.mem_iff.mp among)
        · rcases List.mem_cons.mp (more.mem_iff.mp among) with rfl | before
          · exact absurd inside (Nat.lt_irrefl _)
          · exact other before
      · exact Or.inr ⟨outcome, rfl⟩
  | binds => exact Or.inl ⟨Group.isRunning_append _ _ runs, started rfl⟩
  | loses => exact Or.inl ⟨Group.isRunning_append _ _ runs, started rfl⟩
  | _ => exact Or.inl ⟨runs, other⟩

/-- A task that others have spawned goes on until its end is told. -/
theorem Sound.task_after (sound : e.Sound) {task : Nat}
    (runs : e.service.group.isRunning task = true) (other : task ∉ e.reception.tasks)
    (events : List Event) :
    (e.after events).service.group.isRunning task = true ∨
      ∃ outcome, .aside (.aside (.operation (.ends task outcome))) ∈ events := by
  induction events generalizing e with
  | nil => exact Or.inl runs
  | cons event rest ih =>
      rcases sound.task_step runs other event with ⟨still, outside⟩ | ⟨outcome, rfl⟩
      · rcases ih (sound.step event) still outside with last | ⟨outcome, among⟩
        · exact Or.inl last
        · exact Or.inr ⟨outcome, List.mem_cons_of_mem _ among⟩
      · exact Or.inr ⟨outcome, List.mem_cons_self⟩

/-- Listened on by anybody but that loop. -/
def Elsewhere (e : Entrance) (loop : Nat) (address : Address) : Prop :=
  (∃ c ∈ e.calls, c.socket? = some address) ∨
    ∃ other l, other ≠ loop ∧ e.service.loops[other]? = some l ∧
      e.service.group.isRunning l.task = true ∧ l.address = address

theorem elsewhere_of_mem {loop : Nat} {address : Address} (among : address ∈ e.sockets)
    (ended : e.service.loopRuns loop = false) : e.Elsewhere loop address := by
  rcases List.mem_append.mp among with held | taken
  · exact Or.inl (List.mem_filterMap.mp held)
  · obtain ⟨l, running, own⟩ := List.mem_map.mp taken
    obtain ⟨member, runs⟩ := List.mem_filter.mp running
    obtain ⟨other, found⟩ := List.mem_iff_getElem?.mp member
    refine Or.inr ⟨other, l, ?_, found, runs, own⟩
    rintro rfl
    cases ended.symm.trans ((Service.loopRuns_iff _ _).mpr ⟨l, found, runs⟩)

/-- Nobody else listens on the address of a loop that runs. -/
theorem Sound.not_elsewhere (sound : e.Sound) {loop : Nat} {l : Loop}
    (found : e.service.loops[loop]? = some l) (runs : e.service.group.isRunning l.task = true) :
    ¬e.Elsewhere loop l.address := by
  obtain ⟨_, once, apart⟩ := List.nodup_append.mp sound.sockets
  rintro (⟨c, member, holds⟩ | ⟨other, m, different, there, running, same⟩)
  · refine apart l.address (List.mem_filterMap.mpr ⟨c, member, holds⟩) l.address ?_ rfl
    exact List.mem_map_of_mem (List.mem_filter.mpr ⟨List.mem_of_getElem? found, runs⟩)
  · change ((e.service.loops.filter _).map Loop.address).Nodup at once
    rw [← List.filterMap_eq_map, List.filterMap_filter] at once
    have listens {k : Loop} (now : e.service.group.isRunning k.task = true)
        (own : k.address = l.address) :
        (if e.service.group.isRunning k.task = true then some k.address else none) =
          some l.address := by
      rw [if_pos now, own]
    exact different (index_eq_of_nodup_filterMap once there found (listens running same)
      (listens runs rfl))

/-- A call that has no socket now does not listen. -/
theorem exists_holds_of_set {call : Nat} {next : BindCall} {address : Address}
    (free : next.socket? = none)
    (holds : ∃ c ∈ e.calls.set call next, c.socket? = some address) :
    ∃ c ∈ e.calls, c.socket? = some address := by
  obtain ⟨c, among, held⟩ := holds
  rcases List.mem_or_eq_of_mem_set among with before | rfl
  · exact ⟨c, before, held⟩
  · cases free.symm.trans held

/-- A new loop listens where its call has listened before. -/
theorem Elsewhere.of_started {loop : Nat} {address held : Address} {call : Nat}
    {c next : BindCall} (inside : ∀ place ∈ e.service.places, place.1 < e.service.group.tasks.length)
    (found : e.calls[call]? = some c) (stage : c.stage = .holding held)
    (free : next.socket? = none) {r : Reception} {stopped : Bool}
    (tasks : r.service.group.tasks = e.service.group.tasks ++ [none])
    (loops : r.service.loops =
      e.service.loops ++ [⟨c.acceptor, e.service.group.tasks.length, held, stopped⟩])
    (elsewhere : (⟨r, e.calls.set call next⟩ : Entrance).Elsewhere loop address) :
    e.Elsewhere loop address := by
  rcases elsewhere with holds | ⟨other, l, different, there, runs, own⟩
  · exact Or.inl (exists_holds_of_set free holds)
  · change r.service.loops[other]? = some l at there
    rw [loops] at there
    rcases Nat.lt_trichotomy other e.service.loops.length with before | rfl | beyond
    · rw [List.getElem?_append_left before] at there
      have old := inside (l.task, l.address) (Service.mem_places.mpr ⟨other, l, there, rfl, rfl⟩)
      refine Or.inr ⟨other, l, different, there, ?_, own⟩
      change r.service.group.isRunning l.task = true at runs
      rw [Group.isRunning_iff, tasks, List.getElem?_append_left old] at runs
      exact (Group.isRunning_iff _ _).mpr runs
    · rw [List.getElem?_concat_length] at there
      cases there
      exact Or.inl ⟨c, List.mem_of_getElem? found, (socket?_of_holding stage).trans (congrArg _ own)⟩
    · rw [List.getElem?_eq_none (by rw [List.length_append]; exact beyond)] at there
      cases there

theorem Sound.elsewhere_step (sound : e.Sound) {loop : Nat} {address : Address}
    (elsewhere : (e.step event).Elsewhere loop address) :
    e.Elsewhere loop address ∨ ∃ call, event = .goesOn call (.tries (.opened address)) := by
  have inside := Reception.place_inside sound.reception.tracked
  have move := e.move_step event
  generalize e.step event = later at move elsewhere
  cases move with
  | idle => exact Or.inl elsewhere
  | @aside event spared =>
      have turn := e.reception.turn_step event
      rcases elsewhere with holds | ⟨other, l, different, there, runs, own⟩
      · exact Or.inl (Or.inl holds)
      · have was : ∃ before, e.reception.service.loops[other]? = some before ∧
            before.task = l.task ∧ before.address = l.address := by
          rcases Reception.bindings_turn turn spared sound.reception.tracked.inside with
            ⟨loops, _⟩ | ⟨_, index, _, _, _, loops⟩
          · exact ⟨l, loops ▸ there, rfl, rfl⟩
          · change (e.reception.step event).service.loops[other]? = some l at there
            rw [loops, List.getElem?_modify] at there
            obtain ⟨before, at_, rfl⟩ := Option.map_eq_some_iff.mp there
            refine ⟨before, at_, ?_, ?_⟩ <;> split <;> rfl
        obtain ⟨before, at_, task, same⟩ := was
        refine Or.inl (Or.inr ⟨other, before, different, at_, ?_, same.trans own⟩)
        rw [task]
        have among := Reception.loop_task_mem at_
        rw [task] at among
        rcases Reception.isRunning_turn turn sound.reception.tracked.inside among with
          still | ⟨gone, _⟩
        · exact still.symm.trans runs
        · cases gone.symm.trans runs
  | @begins acceptor asked known =>
      rcases elsewhere with ⟨c, among, holds⟩ | loops
      · rcases List.mem_append.mp among with before | last
        · exact Or.inl (Or.inl ⟨c, before, holds⟩)
        · cases List.mem_singleton.mp last
          cases (socket?_start e.service acceptor asked).symm.trans holds
      · exact Or.inl (Or.inr loops)
  | @tries call number answer c found stage free =>
      rcases elsewhere with ⟨d, among, holds⟩ | loops
      · rcases List.mem_or_eq_of_mem_set among with before | rfl
        · exact Or.inl (Or.inl ⟨d, before, holds⟩)
        · rcases socket?_attempt c number answer with ⟨opened, rfl, now⟩ | ⟨_, now⟩
          · cases now.symm.trans holds
            exact Or.inr ⟨call, rfl⟩
          · cases now.symm.trans holds
      · exact Or.inl (Or.inr loops)
  | wakes => exact Or.inl (elsewhere.imp_left (exists_holds_of_set (socket?_wake _ _)))
  | refused => exact Or.inl (elsewhere.imp_left (exists_holds_of_set rfl))
  | binds found stage => exact Or.inl (.of_started inside found stage rfl rfl rfl elsewhere)
  | loses found stage => exact Or.inl (.of_started inside found stage rfl rfl rfl elsewhere)

theorem Sound.elsewhere_after (sound : e.Sound) {loop : Nat} {address : Address}
    (elsewhere : (e.after events).Elsewhere loop address) :
    e.Elsewhere loop address ∨ ∃ call, .goesOn call (.tries (.opened address)) ∈ events := by
  induction events generalizing e with
  | nil => exact Or.inl elsewhere
  | cons event rest ih =>
      rcases ih (sound.step event) elsewhere with before | ⟨call, among⟩
      · rcases sound.elsewhere_step before with same | ⟨call, rfl⟩
        · exact Or.inl same
        · exact Or.inr ⟨call, List.mem_cons_self⟩
      · exact Or.inr ⟨call, List.mem_cons_of_mem _ among⟩

end Entrance

end NetconfGate.Channel
