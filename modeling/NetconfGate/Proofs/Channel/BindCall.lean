import NetconfGate.Channel.BindCall
import NetconfGate.Proofs.Channel.Service

/-!
# What a bind call has heard and what it comes to

Where a call stands is told by the answers of the system: all but the last said
that the port is in use, and there were three at most, so a call never comes out
of its attempts with none left. The last answer decides, and then the group and
the acceptor do, once. A call that nothing comes between is the bind that is told
as a whole.
-/

namespace NetconfGate.Channel

/-- Shut down, bound by now, or neither. -/
theorem Service.takeOver_eq (s : Service) (acceptor : Nat) (address : Address) :
    s.group.draining = true ∧ s.takeOver acceptor address = (.failed .groupShutdown, s) ∨
    s.group.draining = false ∧ (∃ existing, s.localAddress? acceptor = some existing ∧
      s.takeOver acceptor address =
        (.late existing s.loops.length,
          { s with
            group := { s.group with tasks := s.group.tasks ++ [none] }
            loops := s.loops ++ [⟨acceptor, s.group.tasks.length, address, true⟩] })) ∨
    s.group.draining = false ∧ s.localAddress? acceptor = none ∧
      s.takeOver acceptor address =
        (.bound address s.loops.length,
          { s with
            group := { s.group with tasks := s.group.tasks ++ [none] }
            loops := s.loops ++ [⟨acceptor, s.group.tasks.length, address, false⟩]
            acceptors := s.acceptors.set acceptor (some s.loops.length) }) := by
  unfold takeOver
  rcases s.spawn_eq with ⟨drains, refused⟩ | ⟨isOpen, admitted⟩
  · exact Or.inl ⟨drains, by rw [refused]⟩
  · rw [admitted]
    cases bound : s.localAddress? acceptor with
    | some existing => exact Or.inr (Or.inl ⟨isOpen, existing, rfl, rfl⟩)
    | none => exact Or.inr (Or.inr ⟨isOpen, rfl, rfl⟩)

/-- An acceptor that nobody else has bound listens as it does at once. -/
theorem Service.takeOver_of_unbound {s : Service} {acceptor : Nat}
    (unbound : s.localAddress? acceptor = none) (address : Address) :
    s.listen acceptor address = (.error .groupShutdown, s) ∧
        s.takeOver acceptor address = (.failed .groupShutdown, s) ∨
      ∃ later, s.listen acceptor address = (.ok address, later) ∧
        s.takeOver acceptor address = (.bound address s.loops.length, later) := by
  rcases s.takeOver_eq acceptor address with
    ⟨drains, taken⟩ | ⟨_, existing, bound, _⟩ | ⟨isOpen, _, taken⟩
  · rcases s.spawn_eq with ⟨_, refused⟩ | ⟨isOpen, _⟩
    · exact Or.inl ⟨by simp only [listen, unbound, refused], taken⟩
    · cases drains.symm.trans isOpen
  · cases unbound.symm.trans bound
  · rcases s.spawn_eq with ⟨drains, _⟩ | ⟨_, admitted⟩
    · cases drains.symm.trans isOpen
    · exact Or.inr ⟨_, by simp only [listen, unbound, admitted], taken⟩

namespace BindCall

/-- Whether the stage asks for such a turn. -/
def awaits (c : BindCall) (turn : Turn) : Bool :=
  match c.stage, turn with
  | .trying _, .tries _ => true
  | .pausing _, .wakes => true
  | .holding _, .hands => true
  | _, _ => false

/-- A call that has ended asks for no turn. -/
theorem result?_of_awaits {c : BindCall} {turn : Turn} (awaited : c.awaits turn = true) :
    c.result? = none := by
  unfold awaits at awaited
  unfold result?
  cases stage : c.stage <;> simp [stage] at awaited ⊢

/-- What a turn does. -/
theorem turn_cases (s : Service) (c : BindCall) (next : Turn) :
    (∃ number answer, c.stage = .trying number ∧ next = .tries answer ∧
      c.turn s next = (c.attempt number answer, s)) ∨
    (∃ number, c.stage = .pausing number ∧ next = .wakes ∧ c.turn s next = (c.wake number, s)) ∨
    (∃ address, c.stage = .holding address ∧ next = .hands ∧
      c.turn s next = c.hand s address) ∨
    c.awaits next = false ∧ c.turn s next = (c, s) := by
  unfold turn awaits
  cases stage : c.stage with
  | trying number =>
      cases next with
      | tries answer => exact Or.inl ⟨number, answer, rfl, rfl, rfl⟩
      | wakes => exact Or.inr (Or.inr (Or.inr ⟨rfl, rfl⟩))
      | hands => exact Or.inr (Or.inr (Or.inr ⟨rfl, rfl⟩))
  | pausing number =>
      cases next with
      | tries answer => exact Or.inr (Or.inr (Or.inr ⟨rfl, rfl⟩))
      | wakes => exact Or.inr (Or.inl ⟨number, rfl, rfl, rfl⟩)
      | hands => exact Or.inr (Or.inr (Or.inr ⟨rfl, rfl⟩))
  | holding address =>
      cases next with
      | tries answer => exact Or.inr (Or.inr (Or.inr ⟨rfl, rfl⟩))
      | wakes => exact Or.inr (Or.inr (Or.inr ⟨rfl, rfl⟩))
      | hands => exact Or.inr (Or.inr (Or.inl ⟨address, rfl, rfl, rfl⟩))
  | _ => exact Or.inr (Or.inr (Or.inr ⟨rfl, rfl⟩))

/-- A call pauses after a failed attempt, if the port is in use and there is one more, or
fails. -/
theorem attempt_failed (c : BindCall) (number : Nat) (cause : SystemError) :
    cause.isAddressInUse = true ∧ number < bindAttempts ∧
        c.attempt number (.failed cause) =
          { c with
            answers := c.answers ++ [.failed cause]
            stage := .pausing number
            notes := c.notes ++ [.portInUse c.address.port.toNat number] } ∨
      (cause.isAddressInUse = true → bindAttempts ≤ number) ∧
        c.attempt number (.failed cause) =
          { c with
            answers := c.answers ++ [.failed cause]
            stage := .failed (.ofSocket c.address cause) } := by
  by_cases again : (cause.isAddressInUse && decide (number < bindAttempts)) = true
  · have both := again
    rw [Bool.and_eq_true, decide_eq_true_eq] at both
    exact Or.inl ⟨both.1, both.2, by simp only [attempt, again, if_true]⟩
  · refine Or.inr ⟨fun inUse => ?_, by simp [attempt, again]⟩
    rw [inUse, Bool.true_and, decide_eq_true_eq] at again
    exact Nat.not_lt.mp again

/-- A call stays a call for its acceptor and its address. -/
theorem asks_turn (s : Service) (c : BindCall) (next : Turn) :
    (c.turn s next).1.acceptor = c.acceptor ∧ (c.turn s next).1.address = c.address := by
  rcases turn_cases s c next with
    ⟨number, answer, _, _, taken⟩ | ⟨number, _, _, taken⟩ | ⟨address, _, _, taken⟩ |
    ⟨_, taken⟩ <;> rw [taken]
  · cases answer with
    | failed cause =>
        rcases c.attempt_failed number cause with ⟨_, _, paused⟩ | ⟨_, failed⟩
        · rw [paused]
          exact ⟨rfl, rfl⟩
        · rw [failed]
          exact ⟨rfl, rfl⟩
    | _ => exact ⟨rfl, rfl⟩
  · exact ⟨rfl, rfl⟩
  · exact ⟨rfl, rfl⟩
  · exact ⟨rfl, rfl⟩

/-- The port was in use every time, and there is an attempt left. -/
structure Retried (answers : List SocketAnswer) : Prop where
  left : answers.length < bindAttempts
  inUse : ∀ answer ∈ answers, answer.isInUse = true

theorem retried_nil : Retried [] := ⟨by decide, nofun⟩

/-- Where a call for an address stands after these answers. -/
inductive Stands (asked : Address) : List SocketAnswer → Stage → Prop where
  | already (existing : Address) : Stands asked [] (.failed (.alreadyBound existing))
  | trying {answers : List SocketAnswer} (retried : Retried answers) :
      Stands asked answers (.trying (answers.length + 1))
  | pausing {answers : List SocketAnswer} (retried : Retried answers)
      (tried : 0 < answers.length) : Stands asked answers (.pausing answers.length)
  | failed {answers : List SocketAnswer} {cause : SystemError} (retried : Retried answers)
      (final : cause.isAddressInUse = true → answers.length + 1 = bindAttempts) :
      Stands asked (answers ++ [.failed cause]) (.failed (.ofSocket asked cause))
  | nameless {answers : List SocketAnswer} (retried : Retried answers) (cause : SystemError) :
      Stands asked (answers ++ [.nameless cause]) (.failed (.system cause))
  | holding {answers : List SocketAnswer} (retried : Retried answers) (address : Address) :
      Stands asked (answers ++ [.opened address]) (.holding address)
  | refused {answers : List SocketAnswer} (retried : Retried answers) (address : Address) :
      Stands asked (answers ++ [.opened address]) (.failed .groupShutdown)
  | late {answers : List SocketAnswer} (retried : Retried answers)
      (address existing : Address) (loop : Nat) :
      Stands asked (answers ++ [.opened address]) (.late existing loop)
  | bound {answers : List SocketAnswer} (retried : Retried answers) (address : Address)
      (loop : Nat) : Stands asked (answers ++ [.opened address]) (.bound address loop)

/-- The call stands where its answers have brought it. -/
def Sound (c : BindCall) : Prop := Stands c.address c.answers c.stage

theorem sound_start (s : Service) (acceptor : Nat) (address : Address) :
    (start s acceptor address).Sound := by
  unfold Sound start
  cases s.localAddress? acceptor with
  | some existing => exact .already existing
  | none => exact .trying retried_nil

namespace Sound

variable {c : BindCall} {s : Service} {number : Nat}

theorem retried_of_trying (sound : c.Sound) (stage : c.stage = .trying number) :
    Retried c.answers ∧ number = c.answers.length + 1 := by
  rw [Sound, stage] at sound
  generalize c.answers = answers at sound ⊢
  cases sound with
  | trying retried => exact ⟨retried, rfl⟩

theorem retried_of_pausing (sound : c.Sound) (stage : c.stage = .pausing number) :
    Retried c.answers ∧ 0 < c.answers.length ∧ number = c.answers.length := by
  rw [Sound, stage] at sound
  generalize c.answers = answers at sound ⊢
  cases sound with
  | pausing retried tried => exact ⟨retried, tried, rfl⟩

theorem attempt (sound : c.Sound) (stage : c.stage = .trying number) (answer : SocketAnswer) :
    (c.attempt number answer).Sound := by
  obtain ⟨retried, rfl⟩ := sound.retried_of_trying stage
  cases answer with
  | opened address => exact .holding retried address
  | nameless cause => exact .nameless retried cause
  | failed cause =>
      rcases c.attempt_failed (c.answers.length + 1) cause with
        ⟨inUse, left, paused⟩ | ⟨final, failed⟩
      · have more : Retried (c.answers ++ [.failed cause]) := by
          refine ⟨by rw [List.length_append]; exact left, ?_⟩
          intro answer among
          rcases List.mem_append.mp among with before | last
          · exact retried.inUse answer before
          · cases List.mem_singleton.mp last
            exact inUse
        have stands : Stands c.address _ _ := .pausing more (by simp)
        rw [List.length_append] at stands
        rw [paused]
        exact stands
      · rw [failed]
        exact .failed retried fun inUse =>
          Nat.le_antisymm (Nat.succ_le_of_lt retried.left) (final inUse)

/-- There is always an attempt after a pause. -/
theorem wake_eq (sound : c.Sound) (stage : c.stage = .pausing number) :
    c.wake number = { c with stage := .trying (c.answers.length + 1) } := by
  obtain ⟨retried, _, rfl⟩ := sound.retried_of_pausing stage
  rw [BindCall.wake, if_pos (Nat.succ_le_of_lt retried.left)]

theorem wake (sound : c.Sound) (stage : c.stage = .pausing number) : (c.wake number).Sound := by
  obtain ⟨retried, _, _⟩ := sound.retried_of_pausing stage
  rw [sound.wake_eq stage]
  exact .trying retried

theorem hand (sound : c.Sound) {address : Address} (stage : c.stage = .holding address)
    (s : Service) : (c.hand s address).1.Sound := by
  obtain ⟨answers, retried, answered⟩ :
      ∃ answers, Retried answers ∧ c.answers = answers ++ [.opened address] := by
    rw [Sound, stage] at sound
    generalize c.answers = answers at sound ⊢
    cases sound with
    | holding retried => exact ⟨_, retried, rfl⟩
  have stands : Stands c.address c.answers (s.takeOver c.acceptor address).1 := by
    rw [answered]
    rcases s.takeOver_eq c.acceptor address with
      ⟨_, taken⟩ | ⟨_, existing, _, taken⟩ | ⟨_, _, taken⟩
    · rw [taken]
      exact .refused retried address
    · rw [taken]
      exact .late retried address existing _
    · rw [taken]
      exact .bound retried address _
  exact stands

theorem turn (sound : c.Sound) (s : Service) (next : Turn) : (c.turn s next).1.Sound := by
  rcases turn_cases s c next with
    ⟨number, answer, stage, _, taken⟩ | ⟨number, stage, _, taken⟩ |
    ⟨address, stage, _, taken⟩ | ⟨_, taken⟩ <;> rw [taken]
  · exact sound.attempt stage answer
  · exact sound.wake stage
  · exact sound.hand stage s
  · exact sound

theorem stage_ne_exhausted (sound : c.Sound) : c.stage ≠ .exhausted := by
  intro stage
  rw [Sound, stage] at sound
  generalize c.answers = answers at sound
  cases sound

end Sound

/-- All answers but the last say that the port is in use. -/
theorem Stands.answers {asked : Address} {answers : List SocketAnswer} {stage : Stage}
    (stands : Stands asked answers stage) :
    answers.length ≤ bindAttempts ∧ ∀ answer ∈ answers.dropLast, answer.isInUse = true := by
  have before {answers : List SocketAnswer} (retried : Retried answers) :
      answers.length ≤ bindAttempts ∧ ∀ answer ∈ answers.dropLast, answer.isInUse = true :=
    ⟨Nat.le_of_lt retried.left, fun answer among =>
      retried.inUse answer (List.dropLast_subset _ among)⟩
  have after {answers : List SocketAnswer} (retried : Retried answers) (last : SocketAnswer) :
      (answers ++ [last]).length ≤ bindAttempts ∧
        ∀ answer ∈ (answers ++ [last]).dropLast, answer.isInUse = true := by
    rw [List.length_append, List.dropLast_concat]
    exact ⟨retried.left, retried.inUse⟩
  cases stands with
  | already => exact before retried_nil
  | trying retried => exact before retried
  | pausing retried => exact before retried
  | failed retried => exact after retried _
  | nameless retried => exact after retried _
  | holding retried => exact after retried _
  | refused retried => exact after retried _
  | late retried => exact after retried _
  | bound retried => exact after retried _

/-- What a call for an address may come to after these answers. -/
def Comes (asked : Address) (answers : List SocketAnswer) (result : Except Error Address) : Prop :=
  match answers.getLast? with
  | none => ∃ existing, result = .error (.alreadyBound existing)
  | some (.failed cause) =>
      result = .error (.ofSocket asked cause) ∧
        (cause.isAddressInUse = true → answers.length = bindAttempts)
  | some (.nameless cause) => result = .error (.system cause)
  | some (.opened address) =>
      result = .ok address ∨ result = .error .groupShutdown ∨
        ∃ existing, result = .error (.alreadyBound existing)

theorem Sound.comes {c : BindCall} (sound : c.Sound) {result : Except Error Address}
    (ended : c.result? = some result) : Comes c.address c.answers result := by
  unfold Comes
  rw [Sound] at sound
  rw [result?] at ended
  generalize c.answers = answers at sound ⊢
  generalize c.stage = stage at sound ended
  cases sound with
  | already existing =>
      cases ended
      exact ⟨existing, rfl⟩
  | trying => cases ended
  | pausing => cases ended
  | holding => cases ended
  | failed retried final =>
      cases ended
      rw [List.getLast?_concat]
      refine ⟨rfl, fun inUse => ?_⟩
      rw [List.length_append]
      exact final inUse
  | nameless =>
      cases ended
      rw [List.getLast?_concat]
  | refused =>
      cases ended
      rw [List.getLast?_concat]
      exact Or.inr (Or.inl rfl)
  | late _ _ existing =>
      cases ended
      rw [List.getLast?_concat]
      exact Or.inr (Or.inr ⟨existing, rfl⟩)
  | bound =>
      cases ended
      rw [List.getLast?_concat]
      exact Or.inl rfl

/-! ## The way to the end -/

/-- How many turns a call takes at most until it has ended. -/
def turnsLeft (c : BindCall) : Nat :=
  match c.stage with
  | .trying number => 2 * (bindAttempts - number) + 2
  | .pausing number => 2 * (bindAttempts - number) + 1
  | .holding _ => 1
  | _ => 0

theorem turnsLeft_eq_zero_iff (c : BindCall) : c.turnsLeft = 0 ↔ c.result?.isSome = true := by
  unfold turnsLeft result?
  cases c.stage <;> simp

theorem Sound.turnsLeft_le {c : BindCall} (sound : c.Sound) :
    c.turnsLeft ≤ 2 * bindAttempts := by
  unfold turnsLeft
  cases stage : c.stage with
  | trying number =>
      obtain ⟨retried, rfl⟩ := sound.retried_of_trying stage
      have left := retried.left
      dsimp only
      omega
  | pausing number =>
      obtain ⟨retried, tried, rfl⟩ := sound.retried_of_pausing stage
      have left := retried.left
      dsimp only
      omega
  | holding address => exact (by decide : 1 ≤ 2 * bindAttempts)
  | _ => exact Nat.zero_le _

/-- A call that has not ended asks for a turn. -/
theorem awaits_of_underWay {c : BindCall} (underWay : c.result? = none) :
    (∀ answer, c.awaits (.tries answer) = true) ∨ c.awaits .wakes = true ∨
      c.awaits .hands = true := by
  unfold result? at underWay
  unfold awaits
  cases stage : c.stage with
  | trying number => exact Or.inl fun _ => rfl
  | pausing number => exact Or.inr (Or.inl rfl)
  | holding address => exact Or.inr (Or.inr rfl)
  | _ => simp [stage] at underWay

theorem turnsLeft_attempt_lt {c : BindCall} {number : Nat} (stage : c.stage = .trying number)
    (answer : SocketAnswer) : (c.attempt number answer).turnsLeft < c.turnsLeft := by
  have now : c.turnsLeft = 2 * (bindAttempts - number) + 2 := by rw [turnsLeft, stage]
  rw [now]
  cases answer with
  | opened address => exact Nat.lt_add_left _ (by decide : 1 < 2)
  | nameless cause => exact Nat.succ_pos _
  | failed cause =>
      rcases c.attempt_failed number cause with ⟨_, _, paused⟩ | ⟨_, failed⟩
      · rw [paused]
        exact Nat.lt_succ_self _
      · rw [failed]
        exact Nat.succ_pos _

theorem turnsLeft_turn_lt {c : BindCall} {next : Turn} (sound : c.Sound)
    (awaited : c.awaits next = true) (s : Service) :
    (c.turn s next).1.turnsLeft < c.turnsLeft := by
  rcases turn_cases s c next with
    ⟨number, answer, stage, _, taken⟩ | ⟨number, stage, _, taken⟩ |
    ⟨address, stage, _, taken⟩ | ⟨other, _⟩
  · rw [taken]
    exact turnsLeft_attempt_lt stage answer
  · obtain ⟨retried, _, rfl⟩ := sound.retried_of_pausing stage
    have left := retried.left
    have now : c.turnsLeft = 2 * (bindAttempts - c.answers.length) + 1 := by
      rw [turnsLeft, stage]
    rw [taken, sound.wake_eq stage, now]
    change 2 * (bindAttempts - (c.answers.length + 1)) + 2 < _
    omega
  · have now : c.turnsLeft = 1 := by rw [turnsLeft, stage]
    rw [taken, now, Nat.lt_one_iff]
    rcases s.takeOver_eq c.acceptor address with
      ⟨_, handed⟩ | ⟨_, existing, _, handed⟩ | ⟨_, _, handed⟩ <;>
      simp only [turnsLeft, hand, handed]
  · cases other.symm.trans awaited

/-- A call that has ended takes no turn. -/
theorem turn_of_ended {c : BindCall} (ended : c.result?.isSome = true) (s : Service)
    (next : Turn) : c.turn s next = (c, s) := by
  unfold result? at ended
  rcases turn_cases s c next with
    ⟨number, answer, stage, _⟩ | ⟨number, stage, _⟩ | ⟨address, stage, _⟩ | ⟨_, kept⟩
  · simp [stage] at ended
  · simp [stage] at ended
  · simp [stage] at ended
  · exact kept

/-- One turn after the other. -/
def turns (s : Service) (c : BindCall) : List Turn → BindCall × Service
  | [] => (c, s)
  | turn :: rest =>
      let (c, s) := c.turn s turn
      c.turns s rest

/-- The turns of a call from attempt `number` on, with `left` more after it. -/
def turnsFrom (attempt : Nat → SocketAnswer) (number : Nat) : Nat → List Turn
  | 0 => [.tries (attempt number), .hands]
  | left + 1 =>
      if (attempt number).isInUse then
        .tries (attempt number) :: .wakes :: turnsFrom attempt (number + 1) left
      else [.tries (attempt number), .hands]

theorem turn_tries {c : BindCall} {number : Nat} (stage : c.stage = .trying number) (s : Service)
    (answer : SocketAnswer) : c.turn s (.tries answer) = (c.attempt number answer, s) := by
  simp only [turn, stage]

theorem turn_wakes {c : BindCall} {number : Nat} (stage : c.stage = .pausing number)
    (s : Service) : c.turn s .wakes = (c.wake number, s) := by
  simp only [turn, stage]

/-- An attempt after which there is no other: the call ends, or hands over what it has
opened. -/
theorem turns_last (s : Service) {c : BindCall} {number : Nat} (stage : c.stage = .trying number)
    (answer : SocketAnswer) (last : answer.isInUse = true → bindAttempts ≤ number) :
    ∃ answers, c.turns s [.tries answer, .hands] =
      match Service.opening c.address number answer with
      | (.error e, notes) =>
          ({ c with answers := answers, notes := c.notes ++ notes, stage := .failed e }, s)
      | (.ok found, notes) =>
          { c with answers := answers, notes := c.notes ++ notes, stage := .holding found }.hand
            s found := by
  refine ⟨c.answers ++ [answer], ?_⟩
  simp only [turns, turn_tries stage]
  cases answer with
  | opened found => rfl
  | nameless cause => rfl
  | failed cause =>
      rcases c.attempt_failed number cause with ⟨inUse, left, _⟩ | ⟨_, failed⟩
      · exact absurd left (Nat.not_lt.mpr (last inUse))
      · simp only [failed, Service.opening, List.append_nil]
        rfl

/-- An attempt at a port that is in use, and the pause after it. -/
theorem turns_again (s : Service) {c : BindCall} {number : Nat} (stage : c.stage = .trying number)
    (left : number < bindAttempts) {cause : SystemError} (inUse : cause.isAddressInUse = true)
    (rest : List Turn) :
    c.turns s (.tries (.failed cause) :: .wakes :: rest) =
      ({ c with
        answers := c.answers ++ [.failed cause]
        notes := c.notes ++ [.portInUse c.address.port.toNat number]
        stage := .trying (number + 1) } : BindCall).turns s rest := by
  have woken (d : BindCall) (stage : d.stage = .pausing number) :
      d.turn s .wakes = ({ d with stage := .trying (number + 1) }, s) := by
    rw [turn_wakes stage, wake, if_pos (Nat.succ_le_of_lt left)]
  rcases c.attempt_failed number cause with ⟨_, _, paused⟩ | ⟨final, _⟩
  · simp only [turns, turn_tries stage, paused]
    rw [woken _ rfl]
  · exact absurd left (Nat.not_lt.mpr (final inUse))

/-- The attempts of a call are those that are told as a whole, and then it hands
over what it has opened. -/
theorem turns_turnsFrom (s : Service) (attempt : Nat → SocketAnswer) {c : BindCall}
    {number left : Nat} (stage : c.stage = .trying number)
    (total : number + left = bindAttempts) :
    ∃ answers, c.turns s (turnsFrom attempt number left) =
      match Service.openFrom c.address attempt number left with
      | (.error e, notes) =>
          ({ c with answers := answers, notes := c.notes ++ notes, stage := .failed e }, s)
      | (.ok found, notes) =>
          { c with answers := answers, notes := c.notes ++ notes, stage := .holding found }.hand
            s found := by
  induction left generalizing c number with
  | zero => exact turns_last s stage (attempt number) fun _ => Nat.le_of_eq total.symm
  | succ left ih =>
      cases inUse : (attempt number).isInUse with
      | true =>
          obtain ⟨cause, told, busy⟩ := SocketAnswer.isInUse_iff.mp inUse
          obtain ⟨answers, rest⟩ := ih (c := { c with
            answers := c.answers ++ [.failed cause]
            notes := c.notes ++ [.portInUse c.address.port.toNat number]
            stage := .trying (number + 1) }) rfl (by omega)
          refine ⟨answers, ?_⟩
          rw [turnsFrom, if_pos inUse, told, turns_again s stage (by omega) busy, rest]
          simp only [Service.openFrom, inUse, if_true]
          rcases Service.openFrom c.address attempt (number + 1) left with ⟨result, notes⟩
          cases result <;> simp only [List.append_assoc, List.singleton_append]
      | false =>
          rw [turnsFrom, Service.openFrom, if_neg (Bool.eq_false_iff.mp inUse),
            if_neg (Bool.eq_false_iff.mp inUse)]
          exact turns_last s stage (attempt number) fun yes => by cases inUse.symm.trans yes

/-- A call that nothing comes between is the bind that is told as a whole. -/
theorem turns_eq_bind (s : Service) (acceptor : Nat) (address : Address)
    (attempt : Nat → SocketAnswer) :
    let done := (start s acceptor address).turns s (turnsFrom attempt 1 (bindAttempts - 1))
    let bound := s.bind acceptor address attempt
    done.1.result? = some bound.result ∧ done.1.notes = bound.notes ∧ done.2 = bound.service := by
  intro done bound
  cases known : s.localAddress? acceptor with
  | some existing =>
      have stays (turns : List Turn) :
          (start s acceptor address).turns s turns = (start s acceptor address, s) := by
        have ended : (start s acceptor address).result?.isSome = true := by simp [start, known, result?]
        induction turns with
        | nil => rfl
        | cons next rest ih => simp only [BindCall.turns, turn_of_ended ended, ih]
      simp only [done, bound, stays, Service.bind_of_bound known]
      simp [start, known, result?]
  | none =>
      have begun : (start s acceptor address).stage = .trying 1 := by simp [start, known]
      obtain ⟨answers, run⟩ := turns_turnsFrom s attempt begun
        (rfl : 1 + (bindAttempts - 1) = bindAttempts)
      have opened : Service.openFrom (start s acceptor address).address attempt 1
          (bindAttempts - 1) = Service.openSocket address attempt := rfl
      rw [opened] at run
      simp only [done, bound, Service.bind, known, run]
      rcases Service.openSocket address attempt with ⟨result, notes⟩
      cases result with
      | error e => exact ⟨rfl, List.nil_append _, rfl⟩
      | ok found =>
          rcases Service.takeOver_of_unbound known found with
            ⟨refused, taken⟩ | ⟨later, listened, taken⟩
          · simp [hand, start, taken, refused, result?]
          · simp [hand, start, taken, listened, result?]

end BindCall

end NetconfGate.Channel
