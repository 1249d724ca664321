import NetconfGate.Proofs.Channel.Entrance.Sound

/-!
# A bind does all or nothing

A turn of a bind call leaves the service alone, until the last one: that starts a
loop for the socket of the call and binds the acceptor to it, or the socket is
closed with the call. If nobody else goes on with a bind of the acceptor, an
acceptor that was not bound stays so until the call binds it, whatever else
happens in between.
-/

namespace NetconfGate.Channel

/-- An acceptor without an address is not bound. -/
theorem Reception.Bound.unbound_of_silent {r : Reception} (bound : r.Bound) {acceptor : Nat}
    (known : acceptor < r.service.acceptors.length)
    (silent : r.service.localAddress? acceptor = none) :
    r.service.acceptors[acceptor]? = some none := by
  cases at_ : r.service.acceptors[acceptor]? with
  | none => exact absurd known (Nat.not_lt.mpr (List.getElem?_eq_none_iff.mp at_))
  | some loop =>
      cases loop with
      | none => rfl
      | some loop => exact absurd at_ (bound.unbound silent loop)

namespace Entrance

variable {e : Entrance} {call : Nat} {c : BindCall}

/-- An acceptor has a loop and its address, or neither. -/
theorem Sound.bound_cases (sound : e.Sound) (acceptor : Nat) :
    e.service.isBound acceptor = false ∧ e.service.localAddress? acceptor = none ∨
      ∃ (loop : Nat) (l : Loop), e.service.acceptors[acceptor]? = some (some loop) ∧
        e.service.loops[loop]? = some l ∧ l.acceptor = acceptor ∧ l.stopped = false ∧
        e.service.isBound acceptor = true ∧
        e.service.localAddress? acceptor = some l.address := by
  unfold Service.isBound Service.localAddress? Service.boundLoop?
  cases at_ : e.service.acceptors[acceptor]? with
  | none => exact Or.inl ⟨rfl, rfl⟩
  | some known =>
      cases known with
      | none => exact Or.inl ⟨rfl, rfl⟩
      | some loop =>
          obtain ⟨l, found, own, untold⟩ := sound.reception.bound.bound acceptor loop at_
          have there : e.service.loops[loop]? = some l := found
          exact Or.inr ⟨loop, l, rfl, there, own, untold, rfl, by simp [there]⟩

/-- What a call comes to with a turn: it goes on, it fails, it binds its acceptor, or
another call did so before. -/
theorem goesOn_cases (sound : e.Sound) (found : e.calls[call]? = some c)
    (underWay : c.result? = none) (turn : BindCall.Turn) :
    let next := e.step (.goesOn call turn)
    ∃ d, next.calls[call]? = some d ∧
      (d.result? = none ∧ next.reception = e.reception ∧
          (d.socket? = c.socket? ∧ next.sockets.Perm e.sockets ∨
            ∃ address, turn = .tries (.opened address) ∧ c.socket? = none ∧
              d.socket? = some address ∧ next.sockets.Perm (address :: e.sockets)) ∨
        (∃ cause, d.result? = some (.error cause) ∧ next.reception = e.reception ∧
          e.sockets.Perm (c.socket?.toList ++ next.sockets) ∧
          (turn = .hands ∧ cause = .groupShutdown ∧ e.service.group.draining = true ∨
            (∃ answer, turn = .tries (.failed answer) ∧ cause = .ofSocket c.address answer) ∨
            ∃ answer, turn = .tries (.nameless answer) ∧ cause = .system answer)) ∨
        (∃ address, d.result? = some (.ok address) ∧ turn = .hands ∧ c.socket? = some address ∧
          e.service.group.draining = false ∧ e.service.localAddress? c.acceptor = none ∧
          next.reception = e.reception.withService
            { e.service with
              group := { e.service.group with tasks := e.service.group.tasks ++ [none] }
              loops := e.service.loops ++
                [⟨c.acceptor, e.service.group.tasks.length, address, false⟩]
              acceptors := e.service.acceptors.set c.acceptor (some e.service.loops.length) } ∧
          next.sockets.Perm e.sockets) ∨
        ∃ existing, d.result? = some (.error (.alreadyBound existing)) ∧ turn = .hands ∧
          e.service.localAddress? c.acceptor = some existing ∧
          next.service.acceptors = e.service.acceptors ∧ next.sockets.Perm e.sockets) := by
  have within := (List.getElem?_eq_some_iff.mp found).1
  have move := e.move_step (.goesOn call turn)
  generalize e.step (.goesOn call turn) = next at move ⊢
  dsimp only
  cases move with
  | idle => exact ⟨c, found, Or.inl ⟨underWay, rfl, Or.inl ⟨rfl, .refl _⟩⟩⟩
  | @tries _ number answer _ found_ stage free =>
      cases found.symm.trans found_
      have quiet := socket?_of_trying stage
      have more := sockets_set_of_none found quiet (c.attempt number answer)
      refine ⟨_, List.getElem?_set_self within, ?_⟩
      cases answer with
      | opened address =>
          exact Or.inl ⟨rfl, rfl, Or.inr ⟨address, rfl, quiet, rfl, more⟩⟩
      | nameless cause =>
          refine Or.inr (Or.inl ⟨_, rfl, rfl, ?_, Or.inr (Or.inr ⟨cause, rfl, rfl⟩)⟩)
          rw [quiet]
          exact more.symm
      | failed cause =>
          rcases c.attempt_failed number cause with ⟨_, _, paused⟩ | ⟨_, failed⟩
          · rw [paused] at more ⊢
            exact Or.inl ⟨rfl, rfl, Or.inl ⟨quiet.symm, more⟩⟩
          · rw [failed] at more ⊢
            refine Or.inr (Or.inl ⟨_, rfl, rfl, ?_, Or.inr (Or.inl ⟨cause, rfl, rfl⟩)⟩)
            rw [quiet]
            exact more.symm
  | @wakes _ number _ found_ stage =>
      cases found.symm.trans found_
      have quiet := socket?_of_pausing stage
      have same := sockets_set_of_none found quiet (c.wake number)
      rw [(sound.calls c (List.mem_of_getElem? found)).wake_eq stage] at same ⊢
      exact ⟨_, List.getElem?_set_self within,
        Or.inl ⟨rfl, rfl, Or.inl ⟨quiet.symm, same⟩⟩⟩
  | @refused _ address _ found_ stage drains =>
      cases found.symm.trans found_
      have holds := socket?_of_holding stage
      refine ⟨_, List.getElem?_set_self within,
        Or.inr (Or.inl ⟨_, rfl, rfl, ?_, Or.inl ⟨rfl, rfl, drains⟩⟩)⟩
      rw [holds]
      exact sockets_set_of_some found holds rfl
  | @binds _ address _ found_ stage isOpen unbound =>
      cases found.symm.trans found_
      exact ⟨_, List.getElem?_set_self within, Or.inr (Or.inr (Or.inl ⟨address, rfl, rfl,
        socket?_of_holding stage, isOpen, unbound, rfl, sound.sockets_handed found stage rfl rfl rfl⟩))⟩
  | @loses _ address existing _ found_ stage isOpen bound =>
      cases found.symm.trans found_
      exact ⟨_, List.getElem?_set_self within, Or.inr (Or.inr (Or.inr ⟨existing, rfl, rfl, bound,
        rfl, sound.sockets_handed found stage rfl rfl rfl⟩))⟩

/-- A call that ends with such an error was told so by the acceptor. -/
theorem Sound.localAddress?_of_alreadyBound (sound : e.Sound)
    (found : e.calls[call]? = some c) (underWay : c.result? = none) {turn : BindCall.Turn}
    {existing : Address}
    (ended : (e.step (.goesOn call turn)).bound? call = some (.error (.alreadyBound existing))) :
    e.service.localAddress? c.acceptor = some existing := by
  obtain ⟨d, at_, how⟩ := goesOn_cases sound found underWay turn
  rw [bound?, at_] at ended
  change d.result? = _ at ended
  rcases how with ⟨goes, _⟩ | ⟨cause, failed, _, _, why⟩ | ⟨held, bound, _⟩ |
    ⟨other, late, _, bound, _⟩
  · cases goes.symm.trans ended
  · cases failed.symm.trans ended
    rcases why with ⟨_, same, _⟩ | ⟨answer, _, same⟩ | ⟨answer, _, same⟩ <;> cases same
  · cases bound.symm.trans ended
  · cases late.symm.trans ended
    exact bound

/-- The turn that a call asks for is taken, if the system may answer so. -/
theorem step_awaited (found : e.calls[call]? = some c) {turn : BindCall.Turn}
    (awaited : c.awaits turn = true) (admitted : e.admits turn = true) :
    (e.step (.goesOn call turn)).calls[call]? = some (c.turn e.service turn).1 := by
  have within := (List.getElem?_eq_some_iff.mp found).1
  have underWay := BindCall.result?_of_awaits awaited
  have both : (c.result?.isNone && e.admits turn) = true := by rw [underWay, admitted]; rfl
  simp only [step, goOn, found, both, if_true]
  exact List.getElem?_set_self within

/-- A call that has ended stays as it is. -/
theorem ended_after (found : e.calls[call]? = some c) (ended : c.result?.isSome = true)
    (events : List Event) : (e.after events).calls[call]? = some c := by
  induction events generalizing e with
  | nil => exact found
  | cons event rest ih =>
      rcases e.call_step event found with same | ⟨turn, _, taken⟩
      · exact ih same
      · rw [BindCall.turn_of_ended ended] at taken
        exact ih taken

/-- A call stays a call for its acceptor and its address. -/
theorem call_after (found : e.calls[call]? = some c) (events : List Event) :
    ∃ d, (e.after events).calls[call]? = some d ∧ d.acceptor = c.acceptor ∧
      d.address = c.address := by
  induction events generalizing e c with
  | nil => exact ⟨c, found, rfl, rfl⟩
  | cons event rest ih =>
      rcases e.call_step event found with same | ⟨turn, _, taken⟩
      · exact ih same
      · obtain ⟨d, there, acceptor, address⟩ := ih taken
        exact ⟨d, there, acceptor.trans (c.asks_turn e.service turn).1,
          address.trans (c.asks_turn e.service turn).2⟩

/-- The turn with which a call has ended. -/
theorem exists_last (found : e.calls[call]? = some c) (underWay : c.result? = none)
    {events : List Event} {result : Except Error Address}
    (ended : (e.after events).bound? call = some result) :
    ∃ before turn later, events = before ++ .goesOn call turn :: later ∧
      let then_ := e.after before
      (∃ d, then_.calls[call]? = some d ∧ d.result? = none) ∧
      (then_.step (.goesOn call turn)).bound? call = some result := by
  induction events generalizing e c with
  | nil =>
      change e.bound? call = some result at ended
      rw [bound?, found] at ended
      cases underWay.symm.trans ended
  | cons event rest ih =>
      have shift {d : BindCall} (there : (e.step event).calls[call]? = some d)
          (open_ : d.result? = none) :
          ∃ before turn later, event :: rest = before ++ .goesOn call turn :: later ∧
            let then_ := e.after before
            (∃ d, then_.calls[call]? = some d ∧ d.result? = none) ∧
            (then_.step (.goesOn call turn)).bound? call = some result := by
        obtain ⟨before, turn, later, rfl, at_, last⟩ := ih there open_ ended
        exact ⟨event :: before, turn, later, rfl, at_, last⟩
      rcases e.call_step event found with same | ⟨turn, rfl, taken⟩
      · exact shift same underWay
      · cases goes : (c.turn e.service turn).1.result? with
        | none => exact shift taken goes
        | some other =>
            have stays := ended_after taken (by rw [goes]; rfl) rest
            have told : (e.after (.goesOn call turn :: rest)).bound? call = some other := by
              change ((e.step (.goesOn call turn)).after rest).bound? call = _
              rw [bound?, stays]
              exact goes
            cases told.symm.trans ended
            refine ⟨[], turn, rest, rfl, ⟨c, found, underWay⟩, ?_⟩
            change (e.step (.goesOn call turn)).bound? call = _
            rw [bound?, taken]
            exact goes

/-! ## Nobody else -/

/-- No other call for the acceptor goes on meanwhile. -/
def Alone (e : Entrance) (call acceptor : Nat) (events : List Event) : Prop :=
  ∀ other turn, .goesOn other turn ∈ events → other ≠ call →
    ∀ c, (e.after events).calls[other]? = some c → c.acceptor ≠ acceptor

namespace Alone

variable {acceptor : Nat} {event : Event} {events rest : List Event}

theorem head (alone : e.Alone call acceptor (event :: rest)) {other : Nat} {turn : BindCall.Turn}
    (goes : event = .goesOn other turn) (different : other ≠ call)
    (found : e.calls[other]? = some c) : c.acceptor ≠ acceptor := by
  obtain ⟨d, there, same, _⟩ := call_after found (event :: rest)
  rw [← same]
  exact alone other turn (goes ▸ List.mem_cons_self) different d there

theorem tail (alone : e.Alone call acceptor (event :: rest)) :
    (e.step event).Alone call acceptor rest :=
  fun other turn among => alone other turn (List.mem_cons_of_mem _ among)

theorem of_append {more : List Event} (alone : e.Alone call acceptor (events ++ more)) :
    e.Alone call acceptor events := by
  intro other turn among different c found
  obtain ⟨d, there, same, _⟩ := call_after found more
  rw [← same]
  refine alone other turn (List.mem_append_left _ among) different d ?_
  rw [after, List.foldl_append]
  exact there

end Alone

/-- An acceptor that is not bound stays so, unless a call for it hands over its socket. -/
theorem Sound.unbound_step (sound : e.Sound) {acceptor : Nat}
    (unbound : e.service.acceptors[acceptor]? = some none) (event : Event) :
    (e.step event).service.acceptors[acceptor]? = some none ∨
      ∃ call c found, event = .goesOn call .hands ∧ e.calls[call]? = some c ∧
        c.acceptor = acceptor ∧ (e.step event).bound? call = some (.ok found) := by
  have within := (List.getElem?_eq_some_iff.mp unbound).1
  have move := e.move_step event
  generalize e.step event = later at move ⊢
  cases move with
  | @aside event spared =>
      have turn := e.reception.turn_step event
      refine Or.inl ?_
      change (e.reception.step event).service.acceptors[acceptor]? = some none
      rcases Reception.bindings_turn turn spared sound.reception.tracked.inside with
        ⟨_, same | more⟩ | ⟨other, loop, _, bound, acceptors, _⟩
      · rw [same]
        exact unbound
      · rw [more]
        exact (List.getElem?_append_left within).trans unbound
      · rw [acceptors]
        by_cases own : other = acceptor
        · subst own
          cases unbound.symm.trans bound
        · exact (List.getElem?_set_ne own).trans unbound
  | @binds call address c found stage isOpen free =>
      by_cases own : c.acceptor = acceptor
      · refine Or.inr ⟨call, c, address, rfl, found, own, ?_⟩
        rw [bound?, List.getElem?_set_self (List.getElem?_eq_some_iff.mp found).1]
        rfl
      · exact Or.inl ((List.getElem?_set_ne own).trans unbound)
  | _ => exact Or.inl unbound

theorem unbound_alone (sound : e.Sound) {acceptor : Nat}
    (unbound : e.service.acceptors[acceptor]? = some none) {events : List Event}
    (alone : e.Alone call acceptor events) :
    (e.after events).service.acceptors[acceptor]? = some none ∨
      ∃ found, (e.after events).bound? call = some (.ok found) := by
  induction events generalizing e with
  | nil => exact Or.inl unbound
  | cons event rest ih =>
      rcases sound.unbound_step unbound event with
        still | ⟨other, c, found, goes, there, own, bound⟩
      · exact ih (sound.step event) still alone.tail
      · by_cases same : other = call
        · subst same
          obtain ⟨d, at_, ended⟩ := Option.bind_eq_some_iff.mp bound
          have stays := ended_after at_ (by rw [ended]; rfl) rest
          refine Or.inr ⟨found, ?_⟩
          change (((e.step event).after rest).calls[other]?).bind _ = _
          rw [stays]
          exact ended
        · exact absurd own (alone.head goes same there)

/-- No other call comes first. -/
theorem bound?_ne_alreadyBound (sound : e.Sound) (found : e.calls[call]? = some c)
    (underWay : c.result? = none) (unbound : e.service.acceptors[c.acceptor]? = some none)
    {events : List Event} (alone : e.Alone call c.acceptor events) (existing : Address) :
    (e.after events).bound? call ≠ some (.error (.alreadyBound existing)) := by
  intro ended
  obtain ⟨before, turn, rest, rfl, ⟨d, there, open_⟩, last⟩ := exists_last found underWay ended
  have still : (e.after before).service.acceptors[c.acceptor]? = some none := by
    rcases unbound_alone sound unbound alone.of_append with still | ⟨address, bound⟩
    · exact still
    · rw [bound?, there] at bound
      cases open_.symm.trans bound
  have silent : (e.after before).service.localAddress? d.acceptor = none := by
    obtain ⟨d_, there_, own, _⟩ := call_after found before
    cases there.symm.trans there_
    rw [own]
    simp [Service.localAddress?, Service.boundLoop?, still]
  have said := (sound.after before).localAddress?_of_alreadyBound there open_ last
  cases silent.symm.trans said

/-- The acceptor of a call that has just succeeded. -/
theorem localAddress?_of_binds {s : Service} {acceptor task : Nat} {address : Address}
    (known : acceptor < s.acceptors.length) {next : Service}
    (loops : next.loops = s.loops ++ [⟨acceptor, task, address, false⟩])
    (acceptors : next.acceptors = s.acceptors.set acceptor (some s.loops.length)) :
    next.localAddress? acceptor = some address := by
  have there : next.acceptors[acceptor]? = some (some s.loops.length) := by
    rw [acceptors, List.getElem?_set_self known]
  have last : next.loops[s.loops.length]? = some ⟨acceptor, task, address, false⟩ := by
    rw [loops, List.getElem?_concat_length]
  simp [Service.localAddress?, Service.boundLoop?, there, last]

/--
A service through any events, with any number of bind calls that take turns with
everything else and with each other.

A call makes three attempts at most, and another one only after the answer that
the port is in use.  It comes to what its last answer and then the group and the
acceptor say; it never comes out of its attempts with none left.  It asks for six
turns at most and has ended after them.

As long as a call goes on, and also if it fails, nothing in the service changes.
The socket that it has opened is one more socket until it fails, and is closed
then.  If the call succeeds, there is one more task, one loop that has the socket,
and the acceptor, which was not bound, is bound to it.

A call at an acceptor that is bound says so at once and attempts nothing.  If
nobody else goes on with a bind of the acceptor, one that was not bound is not
bound until the call succeeds, and the call never says that it is.
-/
theorem bind_all_or_nothing (events : List Event) :
    let e := new.after events
    (∀ (call : Nat) (c : BindCall), e.calls[call]? = some c →
      (c.answers.length ≤ bindAttempts ∧
        (∀ answer ∈ c.answers.dropLast, answer.isInUse = true) ∧ c.stage ≠ .exhausted ∧
        ∀ result, c.result? = some result → BindCall.Comes c.address c.answers result) ∧
      (c.turnsLeft ≤ 2 * bindAttempts ∧ (c.turnsLeft = 0 ↔ c.result?.isSome = true) ∧
        (c.result? = none → (∀ answer, c.awaits (.tries answer) = true) ∨
          c.awaits .wakes = true ∨ c.awaits .hands = true) ∧
        ∀ turn, c.awaits turn = true → e.admits turn = true →
          ∃ d, (e.step (.goesOn call turn)).calls[call]? = some d ∧
            d.turnsLeft < c.turnsLeft) ∧
      (c.result?.isSome = true → ∀ more, (e.after more).calls[call]? = some c) ∧
      ∀ turn, c.result? = none →
        let next := e.step (.goesOn call turn)
        ∃ d, next.calls[call]? = some d ∧
          (d.result? = none → next.reception = e.reception ∧
            (d.socket? = c.socket? ∧ next.sockets.Perm e.sockets ∨
              ∃ address, turn = .tries (.opened address) ∧ c.socket? = none ∧
                d.socket? = some address ∧ next.sockets.Perm (address :: e.sockets))) ∧
          (∀ cause, d.result? = some (.error cause) →
            next.reception = e.reception ∧ e.sockets.Perm (c.socket?.toList ++ next.sockets) ∧
                (turn = .hands ∧ cause = .groupShutdown ∧ e.service.group.draining = true ∨
                  (∃ answer, turn = .tries (.failed answer) ∧
                    cause = .ofSocket c.address answer) ∨
                  ∃ answer, turn = .tries (.nameless answer) ∧ cause = .system answer) ∨
              ∃ existing, turn = .hands ∧ cause = .alreadyBound existing ∧
                e.service.localAddress? c.acceptor = some existing ∧
                next.service.acceptors = e.service.acceptors) ∧
          ∀ address, d.result? = some (.ok address) →
            turn = .hands ∧ c.socket? = some address ∧ e.service.group.draining = false ∧
            e.service.localAddress? c.acceptor = none ∧
            next.reception = e.reception.withService
              { e.service with
                group := { e.service.group with tasks := e.service.group.tasks ++ [none] }
                loops := e.service.loops ++
                  [⟨c.acceptor, e.service.group.tasks.length, address, false⟩]
                acceptors := e.service.acceptors.set c.acceptor (some e.service.loops.length) } ∧
            next.service.localAddress? c.acceptor = some address ∧
            next.service.group.active = e.service.group.active + 1 ∧
            next.sockets.Perm e.sockets) ∧
    ∀ (acceptor : Nat) (address : Address), acceptor < e.service.acceptors.length →
      let begun := e.step (.begins acceptor address)
      let call := e.calls.length
      begun.reception = e.reception ∧ begun.sockets = e.sockets ∧
      ∀ more, begun.Alone call acceptor more →
        let later := begun.after more
        (∀ existing, e.service.localAddress? acceptor = some existing →
          ∃ c, later.calls[call]? = some c ∧ c.answers = [] ∧
            c.result? = some (.error (.alreadyBound existing))) ∧
        (e.service.localAddress? acceptor = none →
          (later.service.isBound acceptor = false ∨
            ∃ found, later.bound? call = some (.ok found)) ∧
          ∀ existing, later.bound? call ≠ some (.error (.alreadyBound existing))) := by
  intro e
  have sound : e.Sound := sound_after events
  refine ⟨?turns, ?alone⟩
  case turns =>
    intro call c found
    have own := sound.calls c (List.mem_of_getElem? found)
    have known := sound.known c (List.mem_of_getElem? found)
    refine ⟨⟨own.answers.1, own.answers.2, own.stage_ne_exhausted, fun _ => own.comes⟩,
      ⟨own.turnsLeft_le, c.turnsLeft_eq_zero_iff, BindCall.awaits_of_underWay, ?_⟩,
      ended_after found, ?_⟩
    · intro turn awaited admitted
      exact ⟨_, step_awaited found awaited admitted,
        BindCall.turnsLeft_turn_lt own awaited e.service⟩
    · intro turn underWay next
      obtain ⟨d, at_, how⟩ := goesOn_cases sound found underWay turn
      refine ⟨d, at_, ?_⟩
      rcases how with ⟨goes, same, held⟩ | ⟨cause, failed, same, closed, why⟩ |
        ⟨address, bound, last, held, isOpen, unbound, started, handed⟩ |
        ⟨existing, late, last, bound, same, _⟩
      · rw [goes]
        exact ⟨fun _ => ⟨same, held⟩, by simp, by simp⟩
      · rw [failed]
        refine ⟨by simp, ?_, by simp⟩
        intro _ told
        cases told
        exact Or.inl ⟨same, closed, why⟩
      · rw [bound]
        refine ⟨by simp, by simp, ?_⟩
        intro _ told
        cases told
        have service : next.service = _ := congrArg Reception.service started
        refine ⟨last, held, isOpen, unbound, started, ?_, ?_, handed⟩
        · rw [service]
          exact localAddress?_of_binds known rfl rfl
        · rw [service]
          simp [Reception.withService, Reception.service, Group.active]
      · rw [late]
        refine ⟨by simp, ?_, by simp⟩
        intro _ told
        cases told
        exact Or.inr ⟨existing, last, rfl, bound, same⟩
  case alone =>
    intro acceptor address known begun call
    have begins : begun = { e with calls := e.calls ++ [.start e.service acceptor address] } :=
      if_pos known
    have there : begun.calls[call]? = some (.start e.service acceptor address) := by
      rw [begins]
      exact List.getElem?_concat_length
    refine ⟨by rw [begins], by rw [begins, sockets_begins], ?_⟩
    intro more alone later
    refine ⟨?_, ?_⟩
    · intro existing bound
      have refused : (BindCall.start e.service acceptor address).result? =
          some (.error (.alreadyBound existing)) := by
        simp [BindCall.start, BindCall.result?, bound]
      exact ⟨_, ended_after there (by rw [refused]; rfl) more, rfl, refused⟩
    · intro silent
      have fresh : begun.Sound := sound.step _
      have underWay : (BindCall.start e.service acceptor address).result? = none := by
        simp [BindCall.start, BindCall.result?, silent]
      have unbound : begun.service.acceptors[acceptor]? = some none := by
        rw [begins]
        exact sound.reception.bound.unbound_of_silent known silent
      refine ⟨?_, bound?_ne_alreadyBound fresh there underWay unbound alone⟩
      rcases unbound_alone fresh unbound alone with still | bound
      · refine Or.inl ?_
        simp [Service.isBound, later, still]
      · exact Or.inr bound

/-- A group that is shut down while a call pauses: the call opens a socket all the
same and has to close it. -/
example :
    let inUse : SystemError := .plain .addressInUse
    let e := new.after
      [.aside (.aside .acceptor), .begins 0 (.localhost 2022), .goesOn 0 (.tries (.failed inUse)),
        .aside (.aside (.operation .drain)), .goesOn 0 .wakes,
        .goesOn 0 (.tries (.opened (.localhost 2022)))]
    e.sockets = [.localhost 2022] ∧ (e.step (.goesOn 0 .hands)).sockets = [] ∧
      (e.step (.goesOn 0 .hands)).bound? 0 = some (.error .groupShutdown) := by
  refine ⟨by cbv, by cbv, by cbv⟩

end Entrance

end NetconfGate.Channel
