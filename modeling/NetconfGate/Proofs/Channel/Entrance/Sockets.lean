import NetconfGate.Proofs.Channel.Entrance.Moves

/-!
# The sockets of an entrance

A socket passes from the call that has opened it to the loop that is started for
it. Nothing else opens one: the others leave each loop its address, and a loop
that has ended does not run again.
-/

namespace NetconfGate.Channel

/-- The tasks and addresses of the loops. -/
def Service.places (s : Service) : List (Nat × Address) :=
  s.loops.map fun loop => (loop.task, loop.address)

theorem Service.sockets_eq (s : Service) :
    s.sockets = (s.places.filter fun place => s.group.isRunning place.1).map Prod.snd := by
  rw [places, List.filter_map, List.map_map]
  rfl

theorem Service.mem_places {s : Service} {task : Nat} {address : Address} :
    (task, address) ∈ s.places ↔
      ∃ (loop : Nat) (l : Loop), s.loops[loop]? = some l ∧ l.task = task ∧ l.address = address := by
  simp only [places, List.mem_map, Prod.mk.injEq]
  constructor
  · rintro ⟨l, among, task, address⟩
    obtain ⟨loop, found⟩ := List.mem_iff_getElem?.mp among
    exact ⟨loop, l, found, task, address⟩
  · rintro ⟨loop, l, found, task, address⟩
    exact ⟨l, List.mem_of_getElem? found, task, address⟩

/-- A new loop that runs has the last socket. -/
theorem Service.sockets_append {s later : Service} {loop : Loop}
    (inside : ∀ place ∈ s.places, place.1 < s.group.tasks.length)
    (task : loop.task = s.group.tasks.length)
    (tasks : later.group.tasks = s.group.tasks ++ [none]) (loops : later.loops = s.loops ++ [loop]) :
    later.sockets = s.sockets ++ [loop.address] := by
  have last : later.group.isRunning loop.task = true := by
    rw [Group.isRunning_iff, tasks, task, List.getElem?_concat_length]
  have before : s.places.filter (fun place => later.group.isRunning place.1) =
      s.places.filter fun place => s.group.isRunning place.1 := by
    apply List.filter_congr
    intro place among
    rw [Group.isRunning, Group.isRunning, tasks, List.getElem?_append_left (inside place among)]
  have places : later.places = s.places ++ [(loop.task, loop.address)] := by
    rw [Service.places, loops, List.map_append]
    rfl
  rw [sockets_eq, sockets_eq, places, List.filter_append, before, List.filter_singleton, last,
    List.map_append]
  rfl

namespace Reception

variable {r later : Reception} {event : Event}

theorem places_turn (turn : r.Turn event later) (spared : Entrance.isAside event = true)
    (inside : ∀ task ∈ r.tasks, task < r.service.group.tasks.length) :
    later.service.places = r.service.places := by
  rcases bindings_turn turn spared inside with ⟨loops, _⟩ | ⟨acceptor, loop, _, _, _, loops⟩
  · rw [Service.places, loops]
    rfl
  · rw [Service.places, loops]
    exact map_modify_of_kept (by intro _; rfl) _ _

theorem place_inside (tracked : r.Tracked) :
    ∀ place ∈ r.service.places, place.1 < r.service.group.tasks.length := by
  rintro ⟨task, address⟩ among
  obtain ⟨loop, l, found, rfl, _⟩ := Service.mem_places.mp among
  exact tracked.inside l.task (loop_task_mem found)

/-- Others open no socket. -/
theorem sockets_turn (turn : r.Turn event later) (spared : Entrance.isAside event = true)
    (tracked : r.Tracked) : later.service.sockets.Sublist r.service.sockets := by
  have fewer : later.service.places.filter (fun place => later.service.group.isRunning place.1) =
      (r.service.places.filter fun place => r.service.group.isRunning place.1).filter
        fun place => later.service.group.isRunning place.1 := by
    rw [places_turn turn spared tracked.inside, List.filter_filter]
    apply List.filter_congr
    rintro ⟨task, address⟩ among
    obtain ⟨loop, l, found, rfl, _⟩ := Service.mem_places.mp among
    rcases isRunning_turn turn tracked.inside (loop_task_mem found) with same | ⟨gone, _⟩
    · simp [same]
    · simp [gone]
  rw [Service.sockets_eq, Service.sockets_eq, fewer]
  exact List.filter_sublist.map _

/-- A bind that comes to its end is one that is told aside. -/
theorem step_listens {acceptor : Nat} (known : acceptor < r.service.acceptors.length)
    (isOpen : r.service.group.draining = false)
    (unbound : r.service.localAddress? acceptor = none) (address : Address) :
    r.step (.aside (.listens acceptor address)) =
      r.withService
        { r.service with
          group := { r.service.group with tasks := r.service.group.tasks ++ [none] }
          loops := r.service.loops ++ [⟨acceptor, r.service.group.tasks.length, address, false⟩]
          acceptors := r.service.acceptors.set acceptor (some r.service.loops.length) } := by
  have told : r.isAside (.listens acceptor address) = true := decide_eq_true known
  have listened : (r.service.listen acceptor address).2 =
      { r.service with
        group := { r.service.group with tasks := r.service.group.tasks ++ [none] }
        loops := r.service.loops ++ [⟨acceptor, r.service.group.tasks.length, address, false⟩]
        acceptors := r.service.acceptors.set acceptor (some r.service.loops.length) } := by
    rcases r.service.spawn_eq with ⟨drains, _⟩ | ⟨_, admitted⟩
    · cases drains.symm.trans isOpen
    · simp only [Service.listen, unbound, admitted]
  change r.aside _ = _
  rw [aside, if_pos told]
  change r.withService (r.service.listen acceptor address).2 = _
  rw [listened]

end Reception

/-- Taking out what was collected leaves the others. -/
theorem filterMap_perm_set {α β : Type} {f : α → Option β} {list : List α} {index : Nat}
    {old new : α} (found : list[index]? = some old) (left : f new = none) :
    (list.filterMap f).Perm ((f old).toList ++ (list.set index new).filterMap f) := by
  obtain ⟨within, same⟩ := List.getElem?_eq_some_iff.mp found
  have back := filterMap_set_perm (f := f) (List.getElem?_set_self within) left old
  rw [List.set_set, ← same, List.set_getElem_self, same] at back
  exact back

namespace Entrance

variable {e later : Entrance} {event : Event} {call : Nat} {c : BindCall} {address : Address}

theorem socket?_start (s : Service) (acceptor : Nat) (address : Address) :
    (BindCall.start s acceptor address).socket? = none := by
  unfold BindCall.socket? BindCall.start
  cases s.localAddress? acceptor <;> rfl

theorem sockets_begins (e : Entrance) (acceptor : Nat) (address : Address) :
    (⟨e.reception, e.calls ++ [.start e.service acceptor address]⟩ : Entrance).sockets =
      e.sockets := by
  change (e.calls ++ [_]).filterMap BindCall.socket? ++ e.service.sockets = _
  rw [List.filterMap_append, List.filterMap_cons_none (socket?_start _ _ _), List.filterMap_nil,
    List.append_nil]
  rfl

/-- A call that opens a socket holds one more. -/
theorem sockets_set_of_none (found : e.calls[call]? = some c) (holds : c.socket? = none)
    (next : BindCall) :
    (⟨e.reception, e.calls.set call next⟩ : Entrance).sockets.Perm
      (next.socket?.toList ++ e.sockets) := by
  change ((e.calls.set call next).filterMap BindCall.socket? ++ e.service.sockets).Perm _
  rw [sockets, ← List.append_assoc]
  exact (filterMap_set_perm found holds next).append_right _

/-- A call that lets its socket go closes it, unless a new loop has it now. -/
theorem sockets_set_of_some (found : e.calls[call]? = some c) (holds : c.socket? = some address)
    {next : BindCall} (free : next.socket? = none) :
    e.sockets.Perm (address :: (⟨e.reception, e.calls.set call next⟩ : Entrance).sockets) := by
  have back := filterMap_perm_set (f := BindCall.socket?) found free
  rw [holds] at back
  exact back.append_right _

/-- A socket that is handed over is there as before. -/
theorem sockets_handed (found : e.calls[call]? = some c) (holds : c.socket? = some address)
    {next : BindCall} (free : next.socket? = none) {r : Reception}
    (more : r.service.sockets = e.service.sockets ++ [address]) :
    (⟨r, e.calls.set call next⟩ : Entrance).sockets.Perm e.sockets := by
  change ((e.calls.set call next).filterMap BindCall.socket? ++ r.service.sockets).Perm _
  rw [more, ← List.append_assoc]
  exact (List.perm_append_singleton _ _).trans (sockets_set_of_some found holds free).symm

end Entrance

end NetconfGate.Channel
