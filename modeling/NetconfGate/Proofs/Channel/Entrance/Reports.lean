import NetconfGate.Proofs.Channel.Entrance.Unbinding

/-!
# What an acceptor says of itself

An acceptor says where it was bound until it is unbound. That is where it listens
as long as the group is not shut down. After that its loop ends, and the acceptor
goes on to name an address on which nobody listens, and refuses to be bound because
of it.
-/

namespace NetconfGate.Channel

namespace Entrance

variable {e : Entrance} {acceptor : Nat} {address : Address}

/-- The acceptor has a loop that runs, with a socket on that address. -/
def Listens (e : Entrance) (acceptor : Nat) (address : Address) : Prop :=
  ∃ (loop : Nat) (l : Loop), e.service.loops[loop]? = some l ∧ l.acceptor = acceptor ∧
    l.address = address ∧ e.service.group.isRunning l.task = true

/-- What the acceptor says of itself is where it listens. -/
def Truthful (e : Entrance) (acceptor : Nat) : Prop :=
  ∀ address, e.service.localAddress? acceptor = some address ↔ e.Listens acceptor address

/-- A loop that was told to stop and is waited for has ended. -/
theorem isStopping_of_settled (settled : e.isSettled = true) {loop : Nat} {l : Loop}
    (found : e.service.loops[loop]? = some l) (runs : e.service.group.isRunning l.task = true) :
    e.service.isStopping l = false := by
  have all := List.all_eq_true.mp settled l (List.mem_of_getElem? found)
  rw [runs, Bool.and_true] at all
  simpa using all

/-- When the group was shut down, nobody listens in the end. -/
theorem not_listens_of_draining (settled : e.isSettled = true)
    (drains : e.service.group.draining = true) : ¬e.Listens acceptor address := by
  rintro ⟨loop, l, found, _, _, runs⟩
  have untold := isStopping_of_settled settled found runs
  rw [Service.isStopping, drains, Bool.or_true] at untold
  cases untold

theorem Sound.localAddress?_of_listens (sound : e.Sound) (settled : e.isSettled = true)
    (listens : e.Listens acceptor address) : e.service.localAddress? acceptor = some address := by
  obtain ⟨loop, l, found, rfl, rfl, runs⟩ := listens
  have untold := isStopping_of_settled settled found runs
  rw [Service.isStopping, Bool.or_eq_false_iff] at untold
  have bound : e.service.acceptors[l.acceptor]? = some (some loop) :=
    sound.reception.bound.active loop l found untold.1
  simp [Service.localAddress?, Service.boundLoop?, bound, found]

/-- An acceptor tells the truth unless the group was shut down while it was bound. -/
theorem Sound.truthful_iff (sound : e.Sound) (settled : e.isSettled = true) :
    e.Truthful acceptor ↔
      e.service.group.draining = false ∨ e.service.isBound acceptor = false := by
  rcases sound.bound_cases acceptor with
    ⟨unbound, silent⟩ | ⟨loop, l, bound, found, own, _, isBound, said⟩
  · refine ⟨fun _ => Or.inr unbound, fun _ address => ⟨fun told => ?_, fun listens => ?_⟩⟩
    · cases silent.symm.trans told
    · cases silent.symm.trans (sound.localAddress?_of_listens settled listens)
  · rw [isBound]
    constructor
    · intro truthful
      cases drains : e.service.group.draining with
      | false => exact Or.inl rfl
      | true =>
          exact absurd ((truthful l.address).mp said) (not_listens_of_draining settled drains)
    · rintro (isOpen | impossible) address
      · refine ⟨fun told => ?_, sound.localAddress?_of_listens settled⟩
        cases said.symm.trans told
        obtain ⟨l_, found_, runs⟩ :=
          (Service.loopRuns_iff _ _).mp (sound.loopRuns_of_bound bound isOpen)
        cases found.symm.trans found_
        exact ⟨loop, l, found, own, rfl, runs⟩
      · cases impossible

/-- A call says at once that the acceptor is bound if the acceptor says so. -/
theorem bound?_begins (known : acceptor < e.service.acceptors.length) (asked existing : Address) :
    (e.step (.begins acceptor asked)).bound? e.calls.length =
        some (.error (.alreadyBound existing)) ↔
      e.service.localAddress? acceptor = some existing := by
  have begun : e.step (.begins acceptor asked) =
      ⟨e.reception, e.calls ++ [.start e.service acceptor asked]⟩ := if_pos known
  rw [begun, bound?, List.getElem?_concat_length, Option.bind_some]
  cases said : e.service.localAddress? acceptor <;>
    simp [BindCall.start, BindCall.result?, said]

/-- What is said stays said until the acceptor is unbound. -/
theorem Sound.localAddress?_after (sound : e.Sound) (isBound : e.service.isBound acceptor = true)
    {events : List Event} (untouched : .aside (.unbinds acceptor) ∉ events) :
    (e.after events).service.localAddress? acceptor = e.service.localAddress? acceptor := by
  rcases sound.bound_cases acceptor with ⟨unbound, _⟩ | ⟨loop, l, bound, _⟩
  · cases unbound.symm.trans isBound
  · exact (sound.other_after bound untouched).2.1

theorem Sound.localAddress?_unbinds (sound : e.Sound) (acceptor : Nat) :
    (e.step (.aside (.unbinds acceptor))).service.localAddress? acceptor = none := by
  rcases sound.bound_cases acceptor with ⟨unbound, silent⟩ | ⟨loop, l, bound, found, _⟩
  · rw [step_unbinds_of_unbound unbound]
    exact silent
  · rw [step_unbinds bound found]
    have free : (e.service.acceptors.set acceptor none)[acceptor]? = some none :=
      List.getElem?_set_self (List.getElem?_eq_some_iff.mp bound).1
    change (((e.service.acceptors.set acceptor none)[acceptor]?.join.bind _).map _) = none
    rw [free]
    rfl

/--
A service through any events: acceptors are bound and unbound, the group is drained
or cancelled, its token of draining is cancelled, and the service is closed.

An acceptor is bound if it names an address.  When all loops have ended that were
told to, it names the address on which it listens, and none if it does not listen,
unless the group was shut down while it was bound.  Then no acceptor listens any
more, and all that were bound name the addresses that they had, until they are
unbound.  A bind call is told that the acceptor is bound if and only if the
acceptor says so, true or not.
-/
theorem reports_of_acceptors (events : List Event) :
    let e := new.after events
    (∀ acceptor, e.service.isBound acceptor = (e.service.localAddress? acceptor).isSome) ∧
    (e.isSettled = true →
      (∀ acceptor, e.Truthful acceptor ↔
        e.service.group.draining = false ∨ e.service.isBound acceptor = false) ∧
      (e.service.group.draining = true → ∀ acceptor address, ¬e.Listens acceptor address)) ∧
    (∀ acceptor, e.service.isBound acceptor = true → ∀ more,
      .aside (.unbinds acceptor) ∉ more →
      (e.after more).service.localAddress? acceptor = e.service.localAddress? acceptor) ∧
    (∀ acceptor, (e.step (.aside (.unbinds acceptor))).service.localAddress? acceptor = none) ∧
    (∀ acceptor asked existing, acceptor < e.service.acceptors.length →
      ((e.step (.begins acceptor asked)).bound? e.calls.length =
          some (.error (.alreadyBound existing)) ↔
        e.service.localAddress? acceptor = some existing)) ∧
    ∀ (call : Nat) (c : BindCall) turn existing, e.calls[call]? = some c → c.result? = none →
      (e.step (.goesOn call turn)).bound? call = some (.error (.alreadyBound existing)) →
      e.service.localAddress? c.acceptor = some existing := by
  intro e
  have sound : e.Sound := sound_after events
  refine ⟨fun acceptor => ?_, fun settled => ⟨fun _ => sound.truthful_iff settled,
    fun drains _ _ => not_listens_of_draining settled drains⟩, ?_, sound.localAddress?_unbinds,
    fun _ asked existing known => bound?_begins known asked existing, ?_⟩
  · rcases sound.bound_cases acceptor with ⟨unbound, silent⟩ | ⟨_, _, _, _, _, _, isBound, said⟩
    · rw [unbound, silent]
      rfl
    · rw [isBound, said]
      rfl
  · intro acceptor isBound more untouched
    exact sound.localAddress?_after isBound untouched
  · intro call c turn existing found underWay
    exact sound.localAddress?_of_alreadyBound found underWay

/-- A service that is closed while its acceptor is bound: the loop ends, nobody
listens, and the acceptor says that it listens and cannot be bound. -/
theorem reports_of_acceptors_closed :
    let address : Address := .localhost 2022
    let e := new.after
      [.aside (.aside .acceptor), .begins 0 address, .goesOn 0 (.tries (.opened address)),
        .goesOn 0 .hands, .aside (.aside (.operation (.beginClose .graceful))),
        .aside (.stops 0)]
    e.isSettled = true ∧ e.service.isBound 0 = true ∧
      e.service.localAddress? 0 = some address ∧ e.sockets = [] ∧ ¬e.Listens 0 address ∧
      (e.step (.begins 0 address)).bound? 1 = some (.error (.alreadyBound address)) := by
  refine ⟨rfl, rfl, rfl, rfl, ?_, rfl⟩
  exact not_listens_of_draining rfl rfl

end Entrance

end NetconfGate.Channel
