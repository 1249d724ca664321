import NetconfGate.Proofs.Channel.Entrance.Binding
import NetconfGate.Proofs.Channel.Entrance.Frame
import NetconfGate.Proofs.Channel.Reception.Conservation

/-!
# An unbind affects one listener

An unbind takes the binding of its acceptor, stops the loop of it and waits for that
loop. The loop has at most to hand over what it holds, so the unbind can always
return, and then it has succeeded. Other acceptors stay bound and take connections,
all sessions and other tasks go on, and what the unbind leaves is an acceptor and an
address that may be bound again.
-/

namespace NetconfGate.Channel

namespace Entrance

variable {e : Entrance} {loop : Nat} {l : Loop}

theorem step_unbinds_of_unbound {acceptor : Nat} (unbound : e.service.isBound acceptor = false) :
    e.step (.aside (.unbinds acceptor)) = e := by
  have free : e.service.acceptors[acceptor]?.join = none := by
    simpa [Service.isBound, Option.isSome_eq_false_iff] using unbound
  have kept : e.reception.service.release acceptor = (none, e.reception.service) := by
    change e.service.release acceptor = (none, e.service)
    rw [Service.release, free]
  change { e with reception := e.reception.unbind acceptor } = e
  rw [Reception.unbind, kept]
  change { e with reception := { e.reception with released := e.reception.released ++ [] } } = e
  rw [List.append_nil]

/-- The binding is given up, and the loop is told to stop. -/
theorem step_unbinds {acceptor : Nat} (bound : e.service.acceptors[acceptor]? = some (some loop))
    (found : e.service.loops[loop]? = some l) :
    e.step (.aside (.unbinds acceptor)) =
      { e with
        reception :=
          { e.reception.withService
              { e.service with
                acceptors := e.service.acceptors.set acceptor none
                loops := e.service.loops.set loop { l with stopped := true } } with
            released := e.reception.released ++ [loop] } } := by
  have release : e.reception.service.release acceptor =
      (some loop,
        { e.service with
          acceptors := e.service.acceptors.set acceptor none
          loops := e.service.loops.set loop { l with stopped := true } }) := by
    have joined : e.reception.service.acceptors[acceptor]?.join = some loop :=
      congrArg Option.join bound
    rw [Service.release, joined]
    dsimp only
    rw [e.reception.service.modify_stopped found]
    rfl
  change { e with reception := e.reception.unbind acceptor } = _
  rw [Reception.unbind, release]
  rfl

/-- The turns of an unbind and of the loop that it waits for. -/
def IsOwn (e : Entrance) (loop : Nat) : Event → Prop
  | .aside (.stops other) => other = loop
  | .aside (.returns other) => other = loop
  | .aside (.settles connection) =>
      ∃ c, e.reception.connections[connection]? = some c ∧ c.loop = loop
  | _ => False

/-- Nothing but the tasks and what is known of the connections changes, and no task ends
but that of the loop. -/
theorem own_step (found : e.service.loops[loop]? = some l)
    {event : Event} (own : e.IsOwn loop event) :
    let next := e.step event
    next.calls = e.calls ∧
      next.service =
        { e.service with
          group := { e.service.group with tasks := next.service.group.tasks }
          arrivals := next.service.arrivals } ∧
      ∀ task, task ≠ l.task → e.service.group.isRunning task = true →
        next.service.group.isRunning task = true := by
  have move := e.move_step event
  dsimp only
  generalize e.step event = later at move ⊢
  cases move with
  | idle => exact ⟨rfl, rfl, fun _ _ runs => runs⟩
  | @aside event spared =>
      have turn := e.reception.turn_step event
      refine ⟨rfl, ?_⟩
      change (e.reception.step event).service = _ ∧
        ∀ task, _ → _ → (e.reception.step event).service.group.isRunning task = true
      generalize e.reception.step event = after at turn ⊢
      cases turn with
      | idle => exact ⟨rfl, fun _ _ runs => runs⟩
      | @stops other m there told free =>
          cases (show other = loop from own)
          cases found.symm.trans there
          refine ⟨?_, fun task different runs => ?_⟩
          · exact congrArg (fun group => { e.service with group := group })
              (e.service.group.finish_eq l.task .completed)
          · change (e.service.group.finish l.task .completed).isRunning task = true
            rw [Group.isRunning_finish, runs]
            simpa using different
      | returns => exact ⟨rfl, fun _ _ runs => runs⟩
      | settles =>
          rename_i connection c readable _ _
          obtain ⟨arrivals, tasks, settled, how⟩ := e.reception.service.settle_eq c readable
          rw [settled]
          refine ⟨rfl, fun task _ runs => ?_⟩
          rcases how with ⟨rfl, _⟩ | ⟨rfl, _, _⟩
          · exact runs
          · exact Group.isRunning_append _ _ runs
      | _ => cases own
  | _ => cases own

/-- Waiting for a loop never fails. -/
theorem Sound.joined_eq (sound : e.Sound) (found : e.service.loops[loop]? = some l) :
    e.service.joined l = .ok () := by
  unfold Service.joined
  cases ended : e.service.group.outcome? l.task with
  | none => rfl
  | some outcome =>
      have among : (l.task, l.address) ∈ e.service.places :=
        Service.mem_places.mpr ⟨loop, l, found, rfl, rfl⟩
      rw [sound.clean _ among outcome ended]

theorem Sound.unbound?_eq (sound : e.Sound) {result : Except Error Unit}
    (returned : e.unbound? loop = some result) :
    result = .ok () ∧ e.service.loopRuns loop = false := by
  unfold unbound? at returned
  split at returned
  · rename_i among
    rw [List.contains_iff_mem] at among
    obtain ⟨released, ended⟩ := sound.reception.watched.returned loop among
    obtain ⟨l, found, _⟩ := (sound.reception.bound.released loop).mp released
    have told := (congrArg (Option.map e.service.joined) found).symm.trans returned
    rw [Option.map_some, sound.joined_eq found] at told
    exact ⟨(Option.some.inj told).symm, ended⟩
  · cases returned

/-- A loop that was told to stop and holds nothing stops, and then the unbind returns. -/
theorem Sound.returns_of_free (sound : e.Sound) (found : e.service.loops[loop]? = some l)
    (told : l.stopped = true) (free : e.reception.holds loop = false) :
    (e.after [.aside (.stops loop), .aside (.returns loop)]).unbound? loop = some (.ok ()) := by
  have stopped : e.step (.aside (.stops loop)) =
      { e with
        reception := e.reception.withService (e.service.finish l.task .completed) } := by
    have both : (e.reception.service.isStopping l && !e.reception.holds loop) = true := by
      rw [Service.isStopping, told, free]
      rfl
    change { e with reception := e.reception.stop loop } = _
    simp only [Reception.stop, show e.reception.service.loops[loop]? = some l from found, both,
      if_true]
    rfl
  have later := sound.step (.aside (.stops loop))
  change ((e.step (.aside (.stops loop))).step (.aside (.returns loop))).unbound? loop = _
  rw [stopped] at later ⊢
  generalize done : e.reception.withService (e.service.finish l.task .completed) = r at later ⊢
  have there : r.service.loops[loop]? = some l := by
    rw [← done]
    exact found
  have ended : r.service.loopRuns loop = false := by
    rw [Service.loopRuns, there, ← done]
    change (e.service.group.finish l.task .completed).isRunning l.task = false
    rw [Group.isRunning_finish]
    simp
  have released : loop ∈ r.released := (later.reception.bound.released loop).mpr ⟨l, there, told⟩
  have returned : r.step (.returns loop) = { r with returned := r.returned ++ [loop] } := by
    have both : (r.released.contains loop && !r.service.loopRuns loop) = true := by
      rw [List.contains_iff_mem.mpr released, ended]
      rfl
    exact if_pos both
  change (⟨r.step (.returns loop), e.calls⟩ : Entrance).unbound? loop = _
  rw [returned, unbound?, if_pos (by simp)]
  change r.service.loops[loop]?.map r.service.joined = _
  rw [there, Option.map_some]
  exact congrArg some (later.joined_eq there)

/-- The connections that a loop has to go on with. -/
def heldBy (e : Entrance) (loop : Nat) : Nat :=
  e.reception.connections.countP fun c => c.loop == loop && c.isHeld

/-- A loop goes on with a connection that it holds. -/
theorem heldBy_settles {connection : Nat} {c : Connection}
    (found : e.reception.connections[connection]? = some c) (own : c.loop = loop)
    (held : c.isHeld = true) :
    (e.step (.aside (.settles connection))).heldBy loop + 1 = e.heldBy loop := by
  obtain ⟨readable, undecided⟩ := (Reception.isHeld_iff c).mp held
  obtain ⟨within, at_⟩ := List.getElem?_eq_some_iff.mp found
  have settled : (e.step (.aside (.settles connection))).reception.connections =
      e.reception.connections.set connection
        { c with fate := e.reception.service.fate readable } := by
    obtain ⟨arrivals, tasks, how, _⟩ := e.reception.service.settle_eq c readable
    change (e.reception.settle connection).connections = _
    simp only [Reception.settle, found, undecided, how]
  have decided : Connection.isHeld { c with fate := e.reception.service.fate readable } = false := by
    rw [Bool.eq_false_iff, Ne, Reception.isHeld_iff]
    rintro ⟨other, same⟩
    exact Reception.fate_ne_held _ _ _ same
  have before : (c.loop == loop && c.isHeld) = true := by simp [own, held]
  have counted : 0 < e.heldBy loop :=
    List.countP_pos_iff.mpr ⟨c, List.mem_of_getElem? found, before⟩
  rw [heldBy] at counted ⊢
  rw [settled, List.countP_set within, at_, if_pos before, decided, Bool.and_false]
  exact Nat.sub_add_cancel counted

theorem isOwn_of_settles {connection : Nat} {event : Event}
    (own : (e.step (.aside (.settles connection))).IsOwn loop event) : e.IsOwn loop event := by
  cases event with
  | aside event =>
      cases event with
      | settles other =>
          obtain ⟨c, found, mine⟩ := own
          rcases Reception.connection_was (e.reception.turn_step (.settles connection)) found with
            same | ⟨before, readable, _, was, _, rfl⟩ | ⟨_, _, _, takes, _⟩
          · exact ⟨c, same, mine⟩
          · exact ⟨before, was, mine⟩
          · cases takes
      | _ => exact own
  | _ => exact own

/-- The unbind can return: its loop goes on with what it holds, and stops. -/
theorem Sound.exists_returns (sound : e.Sound) (found : e.service.loops[loop]? = some l)
    (told : l.stopped = true) :
    ∃ rest, (∀ event ∈ rest, e.IsOwn loop event) ∧
      (e.after rest).unbound? loop = some (.ok ()) := by
  generalize many : e.heldBy loop = left
  induction left generalizing e with
  | zero =>
      have free : e.reception.holds loop = false :=
        List.any_eq_false.mpr (List.countP_eq_zero.mp many)
      refine ⟨_, ?_, sound.returns_of_free found told free⟩
      simp [IsOwn]
  | succ left ih =>
      have some_ : 0 < e.heldBy loop := many ▸ Nat.succ_pos left
      obtain ⟨c, among, both⟩ := List.countP_pos_iff.mp some_
      obtain ⟨connection, there⟩ := List.mem_iff_getElem?.mp among
      rw [Bool.and_eq_true, beq_iff_eq] at both
      have fewer := heldBy_settles there both.1 both.2
      have first : e.IsOwn loop (.aside (.settles connection)) := ⟨c, there, both.1⟩
      have loops := congrArg Service.loops (own_step found first).2.1
      obtain ⟨rest, own, returned⟩ := ih (sound.step (.aside (.settles connection)))
        (loops ▸ found) (by omega)
      refine ⟨.aside (.settles connection) :: rest, ?_, returned⟩
      intro event member
      rcases List.mem_cons.mp member with rfl | later
      · exact first
      · exact isOwn_of_settles (own event later)

/-! ## Bound again -/

/-- The system gives a call the socket that it asks for. -/
theorem Sound.opens (sound : e.Sound) {call : Nat} {c : BindCall}
    (found : e.calls[call]? = some c) {number : Nat} (stage : c.stage = .trying number)
    {address : Address} (free : address ∉ e.sockets) :
    let next := e.step (.goesOn call (.tries (.opened address)))
    next.calls[call]? = some (c.attempt number (.opened address)) ∧
      next.reception = e.reception := by
  intro next
  have asked : c.awaits (.tries (.opened address)) = true := by simp [BindCall.awaits, stage]
  have taken := step_awaited found asked (by simpa [admits] using free)
  rw [BindCall.turn_tries stage] at taken
  refine ⟨taken, ?_⟩
  obtain ⟨d, at_, how⟩ := goesOn_cases sound found (BindCall.result?_of_awaits asked)
    (.tries (.opened address))
  cases taken.symm.trans at_
  rcases how with ⟨_, same, _⟩ | ⟨_, failed, _⟩ | ⟨_, bound, _⟩ | ⟨_, late, _⟩
  · exact same
  · cases failed
  · cases bound
  · cases late

/-- The group takes the loop for a socket, and the acceptor is bound. -/
theorem Sound.hands (sound : e.Sound) {call : Nat} {c : BindCall}
    (found : e.calls[call]? = some c) {address : Address} (stage : c.stage = .holding address)
    (isOpen : e.service.group.draining = false)
    (unbound : e.service.localAddress? c.acceptor = none) :
    let next := e.step (.goesOn call .hands)
    next.bound? call = some (.ok address) ∧
      next.service.localAddress? c.acceptor = some address := by
  intro next
  have asked : c.awaits .hands = true := by simp [BindCall.awaits, stage]
  have underWay := BindCall.result?_of_awaits asked
  have known := sound.known c (List.mem_of_getElem? found)
  have taken := step_awaited found asked rfl
  obtain ⟨d, at_, how⟩ := goesOn_cases sound found underWay .hands
  have result : next.bound? call = d.result? := congrArg (Option.bind · BindCall.result?) at_
  cases taken.symm.trans at_
  rcases how with ⟨goes, _⟩ | ⟨_, _, _, _, why⟩ | ⟨held, bound, _, holds, _, _, started, _⟩ |
    ⟨_, _, _, bound, _⟩
  · have fewer := BindCall.turnsLeft_turn_lt (sound.calls c (List.mem_of_getElem? found)) asked
      e.service
    have last : c.turnsLeft = 1 := by rw [BindCall.turnsLeft, stage]
    have ended := (BindCall.turnsLeft_eq_zero_iff _).mp (by omega :
      (c.turn e.service .hands).1.turnsLeft = 0)
    rw [goes] at ended
    cases ended
  · rcases why with ⟨_, _, drains⟩ | ⟨_, other, _⟩ | ⟨_, other, _⟩
    · cases isOpen.symm.trans drains
    · cases other
    · cases other
  · cases (socket?_of_holding stage).symm.trans holds
    refine ⟨result.trans bound, ?_⟩
    have service : next.service = _ := congrArg Reception.service started
    rw [service]
    exact localAddress?_of_binds known rfl rfl
  · cases unbound.symm.trans bound

/-- A call that nothing comes between binds an acceptor that is not bound. -/
theorem Sound.bound_again (sound : e.Sound) {acceptor : Nat}
    (unbound : e.service.acceptors[acceptor]? = some none)
    (isOpen : e.service.group.draining = false) (asked : Address) {address : Address}
    (free : address ∉ e.sockets) :
    let call := e.calls.length
    let again := e.after
      [.begins acceptor asked, .goesOn call (.tries (.opened address)), .goesOn call .hands]
    again.bound? call = some (.ok address) ∧ again.service.localAddress? acceptor = some address := by
  intro call
  have known := (List.getElem?_eq_some_iff.mp unbound).1
  have silent : e.service.localAddress? acceptor = none := by
    simp [Service.localAddress?, Service.boundLoop?, unbound]
  have begun : e.step (.begins acceptor asked) =
      ⟨e.reception, e.calls ++ [.start e.service acceptor asked]⟩ := if_pos known
  have trying : (BindCall.start e.service acceptor asked).stage = .trying 1 := by
    simp [BindCall.start, silent]
  have first := sound.step (.begins acceptor asked)
  have second := first.step (.goesOn call (.tries (.opened address)))
  rw [begun] at first second
  have there : (⟨e.reception, e.calls ++ [.start e.service acceptor asked]⟩ :
      Entrance).calls[call]? = some (.start e.service acceptor asked) :=
    List.getElem?_concat_length
  obtain ⟨holds, same⟩ := first.opens there trying (by rwa [sockets_begins])
  have same_ := congrArg Reception.service same
  have bound := second.hands holds rfl (by rw [service, same_]; exact isOpen)
    (by rw [service, same_]; exact silent)
  simp only [Entrance.after, List.foldl_cons, List.foldl_nil, begun]
  exact bound

/-! ## One listener only -/

/-- An acceptor stays unbound until a call for it hands over its socket. -/
theorem Sound.unbound_after (sound : e.Sound) {acceptor : Nat}
    (unbound : e.service.acceptors[acceptor]? = some none) (events : List Event) :
    (e.after events).service.acceptors[acceptor]? = some none ∨
      ∃ call, .goesOn call .hands ∈ events := by
  induction events generalizing e with
  | nil => exact Or.inl unbound
  | cons event rest ih =>
      rcases sound.unbound_step unbound event with still | ⟨call, _, _, rfl, _⟩
      · rcases ih (sound.step event) still with last | ⟨call, among⟩
        · exact Or.inl last
        · exact Or.inr ⟨call, List.mem_cons_of_mem _ among⟩
      · exact Or.inr ⟨call, List.mem_cons_self⟩

/-- What becomes of another acceptor. -/
theorem Sound.other_after (sound : e.Sound) {other bound : Nat}
    (at_ : e.service.acceptors[other]? = some (some bound)) {events : List Event}
    (untouched : .aside (.unbinds other) ∉ events) :
    let later := e.after events
    later.service.acceptors[other]? = some (some bound) ∧
      later.service.localAddress? other = e.service.localAddress? other ∧
      (later.service.group.draining = false →
        later.service.loopRuns bound = true ∧
        (later.reception.holds bound = false → ∀ readable, ∃ c : Connection,
          (later.step (.aside (.takes bound readable))).reception.connections =
            later.reception.connections ++ [c] ∧ c.loop = bound)) := by
  intro later
  have still : later.service.acceptors[other]? = some (some bound) :=
    (sound.bound_after at_ events).resolve_right untouched
  obtain ⟨l, found, _, _⟩ := sound.reception.bound.bound other bound at_
  have before : e.service.loops[bound]? = some l := found
  obtain ⟨stopped, now, _⟩ := sound.loop_after before events
  have there : later.service.loops[bound]? = some { l with stopped := stopped } := now
  refine ⟨still, ?_, fun isOpen => ?_⟩
  · simp [Service.localAddress?, Service.boundLoop?, at_, before, still, there]
  · have runs := (sound.after events).loopRuns_of_bound still isOpen
    refine ⟨runs, fun free readable => ?_⟩
    have ready : later.reception.canTake bound = true := by
      rw [Reception.canTake, free]
      exact (Bool.and_true _).trans runs
    obtain ⟨c, taken, own, _⟩ := Reception.step_takes ready readable
    exact ⟨c, taken, own⟩

/--
A service through any events, with any number of acceptors that are bound, unbound
and bound again, and an unbind of one of them.

An acceptor that is not bound is left as it is, with everything else.  Otherwise
the unbind takes the binding and tells the loop to stop, and waits for it.  What
it and its loop do from then on changes the tasks alone and what is known of the
connections, and ends no task but that of the loop: signals, tokens, loops,
acceptors, counters and calls stay as they are.

Whatever else goes on meanwhile, the unbind can return, and then it has succeeded
and the loop has ended.  The acceptor is bound to none of the loops that there
were, and to no other unless a call has bound it again.  If the group was not shut
down, nobody listens on the address any more, unless the system has given it to a
call since, and the acceptor can be bound again, to that address or another.

All other acceptors stay bound to their loops until they are unbound, on their
addresses, and as long as the group is not shut down these run and take
connections.  Sessions of all acceptors go on until their handlers come back or
the group is cancelled, and other tasks go on until they end by themselves.
-/
theorem unbind_isolated (events : List Event) (acceptor : Nat) :
    let e := new.after events
    let begun := e.step (.aside (.unbinds acceptor))
    (e.service.isBound acceptor = false → begun = e) ∧
    ∀ (loop : Nat) (l : Loop), e.service.acceptors[acceptor]? = some (some loop) →
      e.service.loops[loop]? = some l →
      begun =
        { e with
          reception :=
            { e.reception.withService
                { e.service with
                  acceptors := e.service.acceptors.set acceptor none
                  loops := e.service.loops.set loop { l with stopped := true } } with
              released := e.reception.released ++ [loop] } } ∧
      ∀ more,
        let later := begun.after more
        ((∃ rest, (∀ event ∈ rest, later.IsOwn loop event) ∧
            (later.after rest).unbound? loop = some (.ok ())) ∧
          (∀ result, later.unbound? loop = some result →
            result = .ok () ∧ later.service.loopRuns loop = false) ∧
          ∀ event, later.IsOwn loop event →
            let next := later.step event
            next.calls = later.calls ∧
            next.service =
              { later.service with
                group := { later.service.group with tasks := next.service.group.tasks }
                arrivals := next.service.arrivals } ∧
            ∀ task, task ≠ l.task → later.service.group.isRunning task = true →
              next.service.group.isRunning task = true) ∧
        ((later.service.isBound acceptor = false ∨ ∃ call, .goesOn call .hands ∈ more) ∧
          (∀ bound, later.service.acceptors[acceptor]? = some (some bound) →
            e.service.loops.length ≤ bound) ∧
          (e.service.group.draining = false → later.service.loopRuns loop = false →
            l.address ∈ later.sockets →
            ∃ call, .goesOn call (.tries (.opened l.address)) ∈ more) ∧
          (later.service.isBound acceptor = false → later.service.group.draining = false →
            ∀ asked address, address ∉ later.sockets →
              let call := later.calls.length
              let again := later.after
                [.begins acceptor asked, .goesOn call (.tries (.opened address)),
                  .goesOn call .hands]
              again.bound? call = some (.ok address) ∧
                again.service.localAddress? acceptor = some address)) ∧
        (∀ other bound, other ≠ acceptor → e.service.acceptors[other]? = some (some bound) →
          .aside (.unbinds other) ∉ more →
          later.service.acceptors[other]? = some (some bound) ∧
          later.service.localAddress? other = e.service.localAddress? other ∧
          (later.service.group.draining = false →
            later.service.loopRuns bound = true ∧
            (later.reception.holds bound = false → ∀ readable, ∃ c : Connection,
              (later.step (.aside (.takes bound readable))).reception.connections =
                later.reception.connections ++ [c] ∧ c.loop = bound))) ∧
        (∀ (connection task : Nat) (c : Connection),
          e.reception.connections[connection]? = some c → c.fate = .handed task →
          (∀ answer, (connection, answer) ∉ e.reception.answers) →
          later.service.group.isRunning task = true ∨
            later.service.group.cancelled = true ∨
            ∃ answer, .aside (.answers connection answer) ∈ more) ∧
        ∀ task, e.service.group.isRunning task = true → task ∉ e.reception.tasks →
          later.service.group.isRunning task = true ∨
            ∃ outcome, .aside (.aside (.operation (.ends task outcome))) ∈ more := by
  intro e begun
  have sound : e.Sound := sound_after events
  refine ⟨step_unbinds_of_unbound, ?_⟩
  intro loop l bound found
  have begins := step_unbinds bound found
  have fresh : begun.Sound := sound.step _
  have known := (List.getElem?_eq_some_iff.mp bound).1
  have unbound : begun.service.acceptors[acceptor]? = some none := by
    simp only [begun, begins]
    exact List.getElem?_set_self known
  have told : begun.service.loops[loop]? = some { l with stopped := true } := by
    simp only [begun, begins]
    exact List.getElem?_set_self (List.getElem?_eq_some_iff.mp found).1
  refine ⟨begins, ?_⟩
  intro more later
  have after : later.Sound := fresh.after more
  obtain ⟨stopped, there, up⟩ := fresh.loop_after told more
  cases up rfl
  refine ⟨⟨after.exists_returns there rfl, fun _ => after.unbound?_eq,
    fun event own => own_step there own⟩, ⟨?unbound, ?bound, ?free, ?again⟩, ?others, ?sessions,
    ?tasks⟩
  case unbound =>
    rcases fresh.unbound_after unbound more with still | hands
    · exact Or.inl (by simp [Service.isBound, later, still])
    · exact Or.inr hands
  case bound =>
    intro other now
    refine Nat.le_of_not_lt fun old => ?_
    have before : begun.service.acceptors[acceptor]? = some (some other) := by
      refine fresh.bound_before now ?_
      simp only [begun, begins]
      exact Nat.lt_of_lt_of_eq old List.length_set.symm
    cases unbound.symm.trans before
  case free =>
    intro isOpen ended among
    obtain ⟨own, there_, ran⟩ :=
      (Service.loopRuns_iff _ _).mp (sound.loopRuns_of_bound bound isOpen)
    cases found.symm.trans there_
    have runs : begun.service.group.isRunning l.task = true := by
      simp only [begun, begins]
      exact ran
    have alone := fresh.not_elsewhere told runs
    exact (fresh.elsewhere_after (elsewhere_of_mem among ended)).resolve_left alone
  case again =>
    intro free isOpen asked address unused
    refine after.bound_again ?_ isOpen asked unused
    have within := Nat.lt_of_lt_of_le (List.getElem?_eq_some_iff.mp unbound).1
      (fresh.acceptors_after more)
    rcases after.bound_cases acceptor with ⟨_, silent⟩ | ⟨_, _, _, _, _, _, bound_, _⟩
    · exact after.reception.bound.unbound_of_silent within silent
    · cases free.symm.trans bound_
  case others =>
    intro other held different at_ untouched
    have untouched_ : .aside (.unbinds other) ∉ .aside (.unbinds acceptor) :: more := by
      intro among
      rcases List.mem_cons.mp among with same | later
      · cases same
        exact different rfl
      · exact untouched later
    exact sound.other_after at_ untouched_
  case sessions =>
    intro connection task c found_ handed unanswered
    rcases sound.session_after found_ handed unanswered (.aside (.unbinds acceptor) :: more) with
      runs | cancelled | ⟨answer, among⟩
    · exact Or.inl runs
    · exact Or.inr (Or.inl cancelled)
    · exact Or.inr (Or.inr ⟨answer, List.mem_of_ne_of_mem (by simp) among⟩)
  case tasks =>
    intro task runs other
    rcases sound.task_after runs other (.aside (.unbinds acceptor) :: more) with
      still | ⟨outcome, among⟩
    · exact Or.inl still
    · exact Or.inr ⟨outcome, List.mem_of_ne_of_mem (by simp) among⟩

/-- Two acceptors, of which the first is unbound while its loop has a connection to go
on with: the unbind waits until the handler has got it. -/
example :
    let binds (call acceptor : Nat) (address : Address) : List Event :=
      [.begins acceptor address, .goesOn call (.tries (.opened address)), .goesOn call .hands]
    let e := new.after ([.aside (.aside .acceptor), .aside (.aside .acceptor)]
      ++ binds 0 0 (.localhost 2022) ++ binds 1 1 (.localhost 2023)
      ++ [.aside (.takes 0 true), .aside (.unbinds 0), .aside (.stops 0), .aside (.returns 0)])
    let later := e.after [.aside (.settles 0), .aside (.stops 0), .aside (.returns 0)]
    e.unbound? 0 = none ∧ e.sockets = [.localhost 2022, .localhost 2023] ∧
      later.unbound? 0 = some (.ok ()) ∧ later.sockets = [.localhost 2023] ∧
      later.service.localAddress? 1 = some (.localhost 2023) ∧
      later.service.group.active = 2 := by
  refine ⟨by cbv, by cbv, by cbv, by cbv, by cbv, by cbv⟩

end Entrance

end NetconfGate.Channel
