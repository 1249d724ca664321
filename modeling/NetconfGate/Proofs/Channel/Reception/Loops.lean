import NetconfGate.Proofs.Channel.Reception.Numbers

/-!
# Loops and their tasks

A task of a loop or of a connection ends in one of three ways only: the loop was
told to stop and did, the handler of the connection came back, or the group was
cancelled. So a loop that was told nothing runs. An acceptor is bound to the one
loop of its own that was not given up, and the loop that an unbind has returned
for runs no more.
-/

namespace NetconfGate.Channel

/-- What is collected once stands at one place. -/
theorem index_eq_of_nodup_filterMap {α β : Type} {f : α → Option β} {list : List α}
    (nodup : (list.filterMap f).Nodup) {i j : Nat} {one other : α} {value : β}
    (at_i : list[i]? = some one) (at_j : list[j]? = some other)
    (left : f one = some value) (right : f other = some value) : i = j := by
  rw [List.Nodup, List.pairwise_filterMap, List.pairwise_iff_getElem] at nodup
  obtain ⟨i_lt, rfl⟩ := List.getElem?_eq_some_iff.mp at_i
  obtain ⟨j_lt, rfl⟩ := List.getElem?_eq_some_iff.mp at_j
  rcases Nat.lt_trichotomy i j with before | same | after
  · exact absurd rfl (nodup i j i_lt j_lt before value left value right)
  · exact same
  · exact absurd rfl (nodup j i j_lt i_lt after value right value left)

namespace Reception

variable {r later : Reception} {event : Event}

namespace Tracked

theorem loop_eq (tracked : r.Tracked) {i j : Nat} {one other : Loop}
    (at_i : r.service.loops[i]? = some one) (at_j : r.service.loops[j]? = some other)
    (same : one.task = other.task) : i = j := by
  have loops := (List.nodup_append.mp tracked.distinct).1
  rw [← List.filterMap_eq_map] at loops
  exact index_eq_of_nodup_filterMap loops at_i at_j rfl (congrArg some same.symm)

theorem connection_eq (tracked : r.Tracked) {i j task : Nat} {one other : Connection}
    (at_i : r.connections[i]? = some one) (at_j : r.connections[j]? = some other)
    (left : one.task? = some task) (right : other.task? = some task) : i = j :=
  index_eq_of_nodup_filterMap (List.nodup_append.mp tracked.distinct).2.1 at_i at_j left right

theorem loop_ne_connection (tracked : r.Tracked) {loop connection task : Nat} {l : Loop}
    {c : Connection} (at_loop : r.service.loops[loop]? = some l)
    (at_connection : r.connections[connection]? = some c) (handed : c.task? = some task) :
    l.task ≠ task := by
  refine (List.nodup_append.mp tracked.distinct).2.2 _ ?_ _ ?_
  · exact List.mem_map_of_mem (List.mem_of_getElem? at_loop)
  · exact List.mem_filterMap.mpr ⟨c, List.mem_of_getElem? at_connection, handed⟩

end Tracked

theorem loop_task_mem {loop : Nat} {l : Loop} (found : r.service.loops[loop]? = some l) :
    l.task ∈ r.tasks :=
  List.mem_append_left _ (List.mem_map_of_mem (List.mem_of_getElem? found))

theorem connection_task_mem {connection task : Nat} {c : Connection}
    (found : r.connections[connection]? = some c) (handed : c.task? = some task) :
    task ∈ r.tasks :=
  List.mem_append_right _ (List.mem_filterMap.mpr ⟨c, List.mem_of_getElem? found, handed⟩)

/-- What ends the task of a loop or of a connection. -/
inductive Ends (r : Reception) : Event → Nat → Prop where
  | stopped {loop : Nat} {l : Loop} (found : r.service.loops[loop]? = some l)
      (told : r.service.isStopping l = true) (free : r.holds loop = false) :
      r.Ends (.stops loop) l.task
  | answered {connection task : Nat} {c : Connection} {answer : Answer}
      (found : r.connections[connection]? = some c) (handed : c.task? = some task)
      (called : r.hasCalled connection = true) : r.Ends (.answers connection answer) task
  | dropped {connection task : Nat} {c : Connection}
      (found : r.connections[connection]? = some c) (handed : c.task? = some task)
      (cancelled : r.service.group.cancelled = true) : r.Ends (.drops connection) task

theorem isRunning_turn (turn : r.Turn event later)
    (inside : ∀ task ∈ r.tasks, task < r.service.group.tasks.length) {task : Nat}
    (among : task ∈ r.tasks) :
    later.service.group.isRunning task = r.service.group.isRunning task ∨
      later.service.group.isRunning task = false ∧ r.Ends event task := by
  have finished (ended : Nat) (outcome : Outcome) (ends : task = ended → r.Ends event task) :
      (r.service.finish ended outcome).group.isRunning task = r.service.group.isRunning task ∨
        (r.service.finish ended outcome).group.isRunning task = false ∧ r.Ends event task := by
    change (r.service.group.finish ended outcome).isRunning task = _ ∨
      (r.service.group.finish ended outcome).isRunning task = false ∧ _
    rw [Group.isRunning_finish]
    by_cases same : task = ended
    · exact Or.inr ⟨by simp [same], ends same⟩
    · exact Or.inl (by simp [same])
  cases turn with
  | idle => exact Or.inl rfl
  | aside isAside => exact Or.inl ((spares_aside inside isAside).group.running task among)
  | unbinds => exact Or.inl rfl
  | returns => exact Or.inl rfl
  | stops found told free => exact finished _ _ fun same => same ▸ .stopped found told free
  | takes => exact Or.inl rfl
  | settles found held =>
      rename_i connection c readable
      obtain ⟨arrivals, tasks, settled, how⟩ := r.service.settle_eq c readable
      rw [settled]
      rcases how with ⟨rfl, _⟩ | ⟨rfl, _, _⟩
      · exact Or.inl rfl
      · exact Or.inl ((Group.spares_append inside).running task among)
  | calls => exact Or.inl rfl
  | answers found handed runs called =>
      exact finished _ _ fun same => .answered found (same ▸ handed) called
  | drops found handed runs cancelled =>
      exact finished _ _ fun same => .dropped found (same ▸ handed) cancelled
  | misses => exact Or.inl rfl

/-- The task of a loop ends only if the loop was told to stop. -/
theorem Ends.of_loop (tracked : r.Tracked) {loop : Nat} {l : Loop}
    (found : r.service.loops[loop]? = some l) (ends : r.Ends event l.task) :
    r.service.isStopping l = true ∧ r.holds loop = false := by
  generalize same : l.task = task at ends
  cases ends with
  | stopped found_ told free =>
      obtain rfl := tracked.loop_eq found found_ same
      cases found.symm.trans found_
      exact ⟨told, free⟩
  | answered at_ handed _ => exact absurd same (tracked.loop_ne_connection found at_ handed)
  | dropped at_ handed _ => exact absurd same (tracked.loop_ne_connection found at_ handed)

/-- The task of a connection ends with its handler or with the group. -/
theorem Ends.of_connection (tracked : r.Tracked) {connection task : Nat} {c : Connection}
    (found : r.connections[connection]? = some c) (handed : c.task? = some task)
    (ends : r.Ends event task) :
    (∃ answer, event = .answers connection answer ∧ r.hasCalled connection = true) ∨
      r.service.group.cancelled = true := by
  cases ends with
  | stopped at_ _ _ => exact absurd rfl (tracked.loop_ne_connection at_ found handed)
  | answered at_ handed_ called =>
      obtain rfl := tracked.connection_eq found at_ handed handed_
      exact Or.inl ⟨_, rfl, called⟩
  | dropped _ _ cancelled => exact Or.inr cancelled

/-- Signals of the group stay up. -/
theorem signals_turn (turn : r.Turn event later)
    (inside : ∀ task ∈ r.tasks, task < r.service.group.tasks.length) :
    (r.service.group.draining = true → later.service.group.draining = true) ∧
      (r.service.group.cancelled = true → later.service.group.cancelled = true) := by
  have finished (task : Nat) (outcome : Outcome) :
      (r.service.group.draining = true →
          (r.service.group.finish task outcome).draining = true) ∧
        (r.service.group.cancelled = true →
          (r.service.group.finish task outcome).cancelled = true) := by
    simp
  cases turn with
  | aside isAside =>
      have spares := (spares_aside inside isAside).group
      exact ⟨spares.draining, spares.cancelled⟩
  | stops => exact finished _ _
  | settles =>
      rename_i connection c readable _ _
      obtain ⟨arrivals, tasks, settled, _⟩ := r.service.settle_eq c readable
      rw [settled]
      exact ⟨id, id⟩
  | answers => exact finished _ _
  | drops => exact finished _ _
  | _ => exact ⟨id, id⟩

/-! ## Bindings -/

/-- What an event does to the loops and to what acceptors are bound to. -/
inductive Rebinds (r later : Reception) : Prop where
  | kept (acceptors : later.service.acceptors = r.service.acceptors)
      (loops : later.service.loops = r.service.loops) (released : later.released = r.released)
  | acceptor (acceptors : later.service.acceptors = r.service.acceptors ++ [none])
      (loops : later.service.loops = r.service.loops) (released : later.released = r.released)
  | listens {acceptor : Nat} {address : Address}
      (exists_ : acceptor < r.service.acceptors.length)
      (unbound : r.service.localAddress? acceptor = none)
      (isOpen : r.service.group.draining = false)
      (tasks : later.service.group.tasks = r.service.group.tasks ++ [none])
      (acceptors : later.service.acceptors =
        r.service.acceptors.set acceptor (some r.service.loops.length))
      (loops : later.service.loops =
        r.service.loops ++ [⟨acceptor, r.service.group.tasks.length, address, false⟩])
      (released : later.released = r.released)
  | unbinds {acceptor loop : Nat} (bound : r.service.acceptors[acceptor]? = some (some loop))
      (acceptors : later.service.acceptors = r.service.acceptors.set acceptor none)
      (loops : later.service.loops =
        r.service.loops.modify loop fun loop => { loop with stopped := true })
      (released : later.released = r.released ++ [loop])

theorem rebinds_turn (turn : r.Turn event later)
    (inside : ∀ task ∈ r.tasks, task < r.service.group.tasks.length) : r.Rebinds later := by
  cases turn with
  | aside isAside =>
      rcases (spares_aside inside isAside).bindings with
        ⟨loops, acceptors | acceptors⟩ |
        ⟨acceptor, address, exists_, unbound, isOpen, tasks, loops, acceptors⟩
      · exact .kept acceptors loops rfl
      · exact .acceptor acceptors loops rfl
      · exact .listens exists_ unbound isOpen tasks acceptors loops rfl
  | unbinds bound => exact .unbinds bound rfl rfl rfl
  | settles =>
      rename_i connection c readable _ _
      obtain ⟨arrivals, tasks, settled, _⟩ := r.service.settle_eq c readable
      rw [settled]
      exact .kept rfl rfl rfl
  | _ => exact .kept rfl rfl rfl

/-- A loop stays what it is, but for its signal. -/
theorem Rebinds.loop_stays (rebinds : r.Rebinds later) {loop : Nat} {l : Loop}
    (found : r.service.loops[loop]? = some l) :
    ∃ stopped, later.service.loops[loop]? = some { l with stopped := stopped } ∧
      (l.stopped = true → stopped = true) := by
  cases rebinds with
  | kept _ loops _ => exact ⟨l.stopped, by rw [loops]; exact found, id⟩
  | acceptor _ loops _ => exact ⟨l.stopped, by rw [loops]; exact found, id⟩
  | listens _ _ _ _ _ loops _ =>
      have within := (List.getElem?_eq_some_iff.mp found).1
      refine ⟨l.stopped, ?_, id⟩
      rw [loops, List.getElem?_append_left within]
      exact found
  | @unbinds _ index _ _ loops _ =>
      by_cases same : index = loop
      · subst same
        exact ⟨true, by rw [loops, List.getElem?_modify_eq, found]; rfl, fun _ => rfl⟩
      · exact ⟨l.stopped, by rw [loops, List.getElem?_modify_ne _ _ same]; exact found, id⟩

/-- A loop was there before, or it is the one that was just started. -/
theorem Rebinds.loop_was (rebinds : r.Rebinds later) {loop : Nat} {l : Loop}
    (found : later.service.loops[loop]? = some l) :
    (∃ before, r.service.loops[loop]? = some before) ∨
      l.task = r.service.group.tasks.length ∧
        later.service.group.tasks = r.service.group.tasks ++ [none] := by
  by_cases within : loop < r.service.loops.length
  · exact Or.inl ⟨_, List.getElem?_eq_getElem within⟩
  · have reached := (List.getElem?_eq_some_iff.mp found).1
    cases rebinds with
    | kept _ loops _ => exact absurd (loops ▸ reached) within
    | acceptor _ loops _ => exact absurd (loops ▸ reached) within
    | listens _ _ _ tasks _ loops _ =>
        rw [loops, List.getElem?_append_right (Nat.le_of_not_lt within)] at found
        cases List.mem_singleton.mp (List.mem_of_getElem? found)
        exact Or.inr ⟨rfl, tasks⟩
    | unbinds _ _ loops _ =>
        rw [loops, List.length_modify] at reached
        exact absurd reached within

/-- An acceptor is bound to the loop of its own that was not given up. -/
structure Bound (r : Reception) : Prop where
  bound : ∀ acceptor loop : Nat, r.service.acceptors[acceptor]? = some (some loop) →
    ∃ l, r.service.loops[loop]? = some l ∧ l.acceptor = acceptor ∧ l.stopped = false
  active : ∀ (loop : Nat) (l : Loop), r.service.loops[loop]? = some l → l.stopped = false →
    r.service.acceptors[l.acceptor]? = some (some loop)
  released : ∀ loop : Nat, loop ∈ r.released ↔
    ∃ l : Loop, r.service.loops[loop]? = some l ∧ l.stopped = true

theorem bound_new : new.Bound := by
  refine ⟨?_, ?_, ?_⟩ <;> simp [new, service, Course.new, Service.new]

/-- Without an address there is no loop. -/
theorem Bound.unbound (isBound : r.Bound) {acceptor : Nat}
    (silent : r.service.localAddress? acceptor = none) (loop : Nat) :
    r.service.acceptors[acceptor]? ≠ some (some loop) := by
  intro found
  obtain ⟨l, at_, _, _⟩ := isBound.bound acceptor loop found
  simp [Service.localAddress?, Service.boundLoop?, found, at_] at silent

theorem Bound.listens (isBound : r.Bound) {acceptor task : Nat} {address : Address}
    (exists_ : acceptor < r.service.acceptors.length)
    (unbound : ∀ loop, r.service.acceptors[acceptor]? ≠ some (some loop))
    (acceptors : later.service.acceptors =
      r.service.acceptors.set acceptor (some r.service.loops.length))
    (loops : later.service.loops = r.service.loops ++ [⟨acceptor, task, address, false⟩])
    (released : later.released = r.released) : later.Bound := by
  have old {loop : Nat} {l : Loop} (found : r.service.loops[loop]? = some l) :
      later.service.loops[loop]? = some l := by
    rw [loops, List.getElem?_append_left (List.getElem?_eq_some_iff.mp found).1]
    exact found
  have new_ : later.service.loops[r.service.loops.length]? =
      some ⟨acceptor, task, address, false⟩ := by
    rw [loops, List.getElem?_concat_length]
  have cases_ {loop : Nat} {l : Loop} (found : later.service.loops[loop]? = some l) :
      r.service.loops[loop]? = some l ∨
        loop = r.service.loops.length ∧ l = ⟨acceptor, task, address, false⟩ := by
    rw [loops] at found
    rcases Nat.lt_trichotomy loop r.service.loops.length with inside | rfl | beyond
    · rw [List.getElem?_append_left inside] at found
      exact Or.inl found
    · rw [List.getElem?_concat_length] at found
      exact Or.inr ⟨rfl, (Option.some.inj found).symm⟩
    · rw [List.getElem?_eq_none (by rw [List.length_append]; exact beyond)] at found
      cases found
  refine ⟨?bound, ?active, ?released⟩
  case bound =>
    intro other loop found
    rw [acceptors, List.getElem?_set] at found
    by_cases same : acceptor = other
    · subst same
      rw [if_pos rfl, if_pos exists_] at found
      cases found
      exact ⟨_, new_, rfl, rfl⟩
    · rw [if_neg same] at found
      obtain ⟨l, at_, own, unstopped⟩ := isBound.bound other loop found
      exact ⟨l, old at_, own, unstopped⟩
  case active =>
    intro loop l found unstopped
    rw [acceptors, List.getElem?_set]
    rcases cases_ found with before | ⟨rfl, rfl⟩
    · have at_ := isBound.active loop l before unstopped
      have different : acceptor ≠ l.acceptor := by
        intro same
        exact unbound loop (same ▸ at_)
      rw [if_neg different]
      exact at_
    · rw [if_pos rfl, if_pos exists_]
  case released =>
    intro loop
    rw [released, isBound.released]
    constructor
    · rintro ⟨l, at_, stopped⟩
      exact ⟨l, old at_, stopped⟩
    · rintro ⟨l, at_, stopped⟩
      rcases cases_ at_ with before | ⟨_, rfl⟩
      · exact ⟨l, before, stopped⟩
      · cases stopped

theorem Bound.unbinds (isBound : r.Bound) {acceptor loop : Nat}
    (bound : r.service.acceptors[acceptor]? = some (some loop))
    (acceptors : later.service.acceptors = r.service.acceptors.set acceptor none)
    (loops : later.service.loops =
      r.service.loops.modify loop fun loop => { loop with stopped := true })
    (released : later.released = r.released ++ [loop]) : later.Bound := by
  obtain ⟨own, at_own, mine, _⟩ := isBound.bound acceptor loop bound
  have told : later.service.loops[loop]? = some { own with stopped := true } := by
    rw [loops, List.getElem?_modify_eq, at_own]
    rfl
  have others {index : Nat} (other : loop ≠ index) :
      later.service.loops[index]? = r.service.loops[index]? := by
    rw [loops, List.getElem?_modify_ne _ _ other]
  refine ⟨?bound, ?active, ?released⟩
  case bound =>
    intro other index found
    rw [acceptors, List.getElem?_set] at found
    by_cases same : acceptor = other
    · subst same
      simp at found
    · rw [if_neg same] at found
      obtain ⟨l, at_, theirs, unstopped⟩ := isBound.bound other index found
      have different : loop ≠ index := by
        rintro rfl
        cases at_own.symm.trans at_
        exact same (mine.symm.trans theirs)
      exact ⟨l, (others different).trans at_, theirs, unstopped⟩
  case active =>
    intro index l found unstopped
    have different : loop ≠ index := by
      rintro rfl
      cases told.symm.trans found
      cases unstopped
    rw [others different] at found
    have at_ := isBound.active index l found unstopped
    have foreign : acceptor ≠ l.acceptor := by
      rintro rfl
      cases bound.symm.trans at_
      exact different rfl
    rw [acceptors, List.getElem?_set_ne foreign]
    exact at_
  case released =>
    intro index
    rw [released, List.mem_append, List.mem_singleton, isBound.released]
    by_cases same : loop = index
    · subst same
      simp [told]
    · simp [others same, Ne.symm same]

theorem Bound.turn (isBound : r.Bound) (rebinds : r.Rebinds later) : later.Bound := by
  cases rebinds with
  | kept acceptors loops released =>
      refine ⟨?_, ?_, ?_⟩
      · rw [acceptors, loops]
        exact isBound.bound
      · rw [acceptors, loops]
        exact isBound.active
      · rw [loops, released]
        exact isBound.released
  | acceptor acceptors loops released =>
      have same (acceptor loop : Nat) :
          (r.service.acceptors ++ [none])[acceptor]? = some (some loop) ↔
            r.service.acceptors[acceptor]? = some (some loop) := by
        rcases Nat.lt_trichotomy acceptor r.service.acceptors.length with inside | rfl | beyond
        · rw [List.getElem?_append_left inside]
        · simp
        · rw [List.getElem?_eq_none (by rw [List.length_append]; exact beyond),
            List.getElem?_eq_none (Nat.le_of_lt beyond)]
      refine ⟨?_, ?_, ?_⟩
      · intro acceptor loop found
        rw [acceptors, same] at found
        rw [loops]
        exact isBound.bound acceptor loop found
      · intro loop l found unstopped
        rw [loops] at found
        rw [acceptors, same]
        exact isBound.active loop l found unstopped
      · rw [loops, released]
        exact isBound.released
  | listens exists_ unbound _ _ acceptors loops released =>
      exact isBound.listens exists_ (isBound.unbound unbound) acceptors loops released
  | unbinds bound acceptors loops released =>
      exact isBound.unbinds bound acceptors loops released

/-- A loop that was told nothing runs, and one for which an unbind has returned
does not. -/
structure Watched (r : Reception) : Prop where
  steady : ∀ (loop : Nat) (l : Loop), r.service.loops[loop]? = some l →
    r.service.group.isRunning l.task = true ∨ r.service.isStopping l = true
  returned : ∀ loop ∈ r.returned, loop ∈ r.released ∧ r.service.loopRuns loop = false

theorem watched_new : new.Watched := by
  refine ⟨?_, ?_⟩ <;> simp [new, service, Course.new, Service.new]

/-- A loop that has ended stays so. -/
theorem loopRuns_turn (tracked : r.Tracked) (turn : r.Turn event later) {loop : Nat} {l : Loop}
    (found : r.service.loops[loop]? = some l) (ended : r.service.loopRuns loop = false) :
    later.service.loopRuns loop = false := by
  have gone : r.service.group.isRunning l.task = false := by
    rw [Service.loopRuns, found] at ended
    simpa using ended
  obtain ⟨stopped, stays, _⟩ := (rebinds_turn turn tracked.inside).loop_stays found
  rw [Service.loopRuns, stays]
  rcases isRunning_turn turn tracked.inside (loop_task_mem found) with same | ⟨now, _⟩
  · simpa [same] using gone
  · simpa using now

theorem Watched.turn (watched : r.Watched) (tracked : r.Tracked) (isBound : r.Bound)
    (turn : r.Turn event later) : later.Watched := by
  have rebinds := rebinds_turn turn tracked.inside
  have drains := (signals_turn turn tracked.inside).1
  refine ⟨?steady, ?returned⟩
  case steady =>
    intro loop l found
    rcases rebinds.loop_was found with ⟨before, was⟩ | ⟨task, tasks⟩
    · obtain ⟨stopped, stays, up⟩ := rebinds.loop_stays was
      cases found.symm.trans stays
      have told (isStopping : r.service.isStopping before = true) :
          later.service.isStopping { before with stopped := stopped } = true := by
        rw [Service.isStopping, Bool.or_eq_true] at isStopping ⊢
        exact isStopping.imp up drains
      rcases watched.steady loop before was with runs | isStopping
      · rcases isRunning_turn turn tracked.inside (loop_task_mem was) with same | ⟨_, ends⟩
        · exact Or.inl (same.trans runs)
        · exact Or.inr (told (ends.of_loop tracked was).1)
      · exact Or.inr (told isStopping)
    · refine Or.inl ?_
      rw [Group.isRunning, tasks, task, List.getElem?_concat_length]
      rfl
  case returned =>
    have kept (loop : Nat) (among : loop ∈ r.returned) :
        loop ∈ later.released ∧ later.service.loopRuns loop = false := by
      obtain ⟨released, ended⟩ := watched.returned loop among
      obtain ⟨l, found, stopped⟩ := (isBound.released loop).mp released
      obtain ⟨stopped_, stays, up⟩ := rebinds.loop_stays found
      exact ⟨((isBound.turn rebinds).released loop).mpr ⟨_, stays, up stopped⟩,
        loopRuns_turn tracked turn found ended⟩
    cases turn with
    | returns released ended =>
        intro loop among
        rcases List.mem_append.mp among with before | now
        · exact watched.returned loop before
        · cases List.mem_singleton.mp now
          exact ⟨released, ended⟩
    | _ => exact kept

end Reception

end NetconfGate.Channel
