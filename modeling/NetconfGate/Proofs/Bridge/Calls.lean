import NetconfGate.Bridge.Calls
import NetconfGate.Proofs.Bridge.Crossing
import Mathlib.Data.List.Chain
import Mathlib.Data.List.Induction

/-!
# What calls make of a bridge

A bridge that is connected once at the most goes along the arrows of the diagram,
and holds a connection just while it is bridging.  A connect dials in whatever
state the bridge is, so a second one leaves the diagram; when it fails, a bridge
that is closed may hold a connection still, and a relay goes over it.
-/

namespace NetconfGate

namespace Crossing

variable {β : Type}

theorem bridge_answer (c : Crossing β) (direction : Relay.Direction) (event : Pump.Event) :
    (c.answer direction event).bridge = c.bridge := by
  unfold answer
  split
  · rfl
  · exact bridge_setLane _ _ _

/-- The bridge is left as it is until the last sink is shut down. -/
theorem bridge_step (c : Crossing β) (event : Event) :
    (c.step event).bridge = c.bridge ∨ (c.step event).bridge = c.bridge.finish := by
  cases event with
  | produces | finishes => exact Or.inl (bridge_setLane _ _ _)
  | readFails | writes | writeFails | flushFails => exact Or.inl (bridge_answer c _ _)
  | drops => exact Or.inl rfl
  | reads direction count =>
      change (c.read direction count).bridge = _ ∨ _
      unfold read
      split
      · exact Or.inl ((bridge_answer _ _ _).trans (bridge_setLane _ _ _))
      · exact Or.inl rfl
  | flushes direction =>
      change (c.flush direction).bridge = _ ∨ _
      unfold flush
      split
      · exact Or.inl ((bridge_answer _ _ _).trans (bridge_setLane _ _ _))
      · exact Or.inl rfl
  | shuts failure =>
      change c.shut.bridge = _ ∨ c.shut.bridge = _
      unfold shut
      split
      · dsimp only
        split
        · exact Or.inr (congrArg Bridge.finish (bridge_setLane _ _ _))
        · exact Or.inl (bridge_setLane _ _ _)
      · exact Or.inl rfl

theorem bridge_run (c : Crossing β) (events : List Event) :
    (c.run events).bridge = c.bridge ∨ (c.run events).bridge = c.bridge.finish := by
  induction events generalizing c with
  | nil => exact Or.inl rfl
  | cons event rest ih =>
      change ((c.step event).run rest).bridge = _ ∨ ((c.step event).run rest).bridge = _
      rcases c.bridge_step event with same | finished
      · rw [← same]
        exact ih (c.step event)
      · right
        rcases ih (c.step event) with kept | again
        · exact kept.trans finished
        · rw [again, finished]
          rfl

/-- A crossing that has given its result leaves its bridge closed. -/
theorem bridge_of_result {b : Bridge β} {c : Crossing β} (started : start b = .ok c)
    {events : List Event} {result : Except Bridge.Error Relay.Summary}
    (told : (c.run events).result = some result) :
    (c.run events).bridge = { b with state := .closed, backend := none } := by
  obtain ⟨backend, held, rfl⟩ : ∃ backend, b.backend = some backend ∧
      c = ⟨{ b with backend := none }, .new, ⟨.new, .new⟩, ⟨.new, .new⟩, Relay.shutdowns, none,
        false⟩ := by
    unfold start Bridge.start at started
    cases held : b.backend with
    | none =>
        rw [held] at started
        cases started
    | some backend =>
        rw [held] at started
        cases started
        exact ⟨backend, rfl, rfl⟩
  have closed := (((sound_start started).run events).result result told).2.1
  rcases bridge_run _ events with same | finished
  · rw [same] at closed ⊢
    change b.state = .closed at closed
    rw [← closed]
  · exact finished

end Crossing

namespace Bridge

variable {β : Type}

/-- All that a call can do. -/
inductive Does (b : Bridge β) : Call β → Account β → Bridge β → Prop where
  | connects (backend : β) :
      Does b (.connect (.ok backend))
        ⟨[.connecting, .bridging], true, some backend, 0, .ok none⟩
        { b with state := .bridging, backend := some backend }
  | fails (cause : Channel.Error) :
      Does b (.connect (.error cause))
        ⟨[.connecting, .closed], true, none, 0, .error (.backendUnavailable b.address cause)⟩
        { b with state := .closed }
  | refuses (free : b.backend = none) (events : List Crossing.Event) :
      Does b (.relay events) .refused b
  | relays {backend : β} (held : b.backend = some backend) (events : List Crossing.Event)
      (carried : Nat) (result : Except Error (Option Relay.Summary)) :
      Does b (.relay events) ⟨[.closed], false, none, carried, result⟩
        { b with state := .closed, backend := none }

theorem perform?_relay_of_none {b : Bridge β} (free : b.backend = none)
    (events : List Crossing.Event) : b.perform? (.relay events) = some (.refused, b) := by
  simp only [perform?, Crossing.start, start, free]
  rfl

theorem does_of_perform? {b next : Bridge β} {call : Call β} {account : Account β}
    (returned : b.perform? call = some (account, next)) : b.Does call account next := by
  cases call with
  | connect outcome =>
      cases outcome with
      | ok backend =>
          cases returned
          exact .connects backend
      | error cause =>
          cases returned
          exact .fails cause
  | relay events =>
      cases held : b.backend with
      | none =>
          rw [perform?_relay_of_none held] at returned
          cases returned
          exact .refuses held events
      | some backend =>
          cases started : Crossing.start b with
          | error cause =>
              rw [Crossing.start, start, held] at started
              cases started
          | ok crossing =>
              simp only [perform?, started] at returned
              obtain ⟨result, told, same⟩ := Option.map_eq_some_iff.mp returned
              rw [Crossing.bridge_of_result started told] at same
              cases same
              exact .relays held events _ _

/-! ## Calls, one after the other -/

theorem performAll?_concat (b : Bridge β) (calls : List (Call β)) (call : Call β) :
    b.performAll? (calls ++ [call]) =
      (b.performAll? calls).bind fun (accounts, last) =>
        (last.perform? call).map fun (account, next) => (accounts ++ [account], next) := by
  induction calls generalizing b with
  | nil =>
      change (b.perform? call).bind _ = (b.perform? call).map _
      cases b.perform? call <;> rfl
  | cons first rest ih =>
      simp only [List.cons_append, performAll?, ih]
      cases b.perform? first with
      | none => rfl
      | some told =>
          change (((told.2.performAll? rest).bind _).bind _) =
            (((told.2.performAll? rest).bind _).bind _)
          cases told.2.performAll? rest with
          | none => rfl
          | some gone =>
              change ((gone.2.perform? call).map _).bind _ = (gone.2.perform? call).map _
              cases gone.2.perform? call <;> rfl

/-- How a bridge is after so many connects, and whether it came there along the
arrows. -/
inductive Standing (b : Bridge β) (path : List State) : Nat → Prop where
  | fresh (state : b.state = .requested) (free : b.backend = none)
      (stays : path = [.requested]) : Standing b path 0
  | once (follows : path.IsChain fun one next => one.leadsTo next = true)
      (last : path.getLast? = some b.state)
      (stands : b.state = .bridging ∧ b.backend.isSome = true ∨
        b.state = .closed ∧ b.backend = none) :
      Standing b path 1
  | again {connects : Nat} (strays : ¬ path.IsChain fun one next => one.leadsTo next = true)
      (stands : b.state = .bridging ∧ b.backend.isSome = true ∨ b.state = .closed) :
      Standing b path (connects + 2)

theorem Standing.either {b : Bridge β} {path : List State} {connects : Nat}
    (standing : Standing b path (connects + 1)) :
    b.state = .bridging ∧ b.backend.isSome = true ∨ b.state = .closed := by
  cases standing with
  | once follows last stands => exact stands.imp_right And.left
  | again strays stands => exact stands

/-- A second connect leaves the diagram, whatever it comes to. -/
theorem Standing.reconnects {b next : Bridge β} {path : List State} {connects : Nat}
    (standing : Standing b path (connects + 1)) (more : List State)
    (stands : next.state = .bridging ∧ next.backend.isSome = true ∨ next.state = .closed) :
    Standing next (path ++ .connecting :: more) (connects + 2) := by
  refine .again (fun follows => ?_) stands
  obtain ⟨before, _, leads⟩ := List.isChain_append.mp follows
  cases standing with
  | again strays _ => exact strays before
  | once _ last stood =>
      have arrow := leads b.state last .connecting rfl
      rcases stood with ⟨bridging, _⟩ | ⟨closed, _⟩
      · rw [bridging] at arrow
        cases arrow
      · rw [closed] at arrow
        cases arrow

theorem Standing.does {b next : Bridge β} {call : Call β} {account : Account β}
    {path : List State} {connects : Nat} (standing : Standing b path connects)
    (does : b.Does call account next) :
    Standing next (path ++ account.states) (connects + if call.isConnect then 1 else 0) := by
  cases does with
  | connects backend =>
      have stands : (State.bridging = .bridging ∧ (some backend).isSome = true) ∨
          State.bridging = .closed := Or.inl ⟨rfl, rfl⟩
      cases connects with
      | succ before => exact standing.reconnects [.bridging] stands
      | zero =>
          cases standing with
          | fresh state free stays =>
              rw [stays]
              exact .once (by simp [State.leadsTo]) rfl (Or.inl ⟨rfl, rfl⟩)
  | fails cause =>
      cases connects with
      | succ before => exact standing.reconnects [.closed] (Or.inr rfl)
      | zero =>
          cases standing with
          | fresh state free stays =>
              rw [stays]
              exact .once (by simp [State.leadsTo]) rfl (Or.inr ⟨rfl, free⟩)
  | refuses free events =>
      rw [Account.refused, List.append_nil]
      exact standing
  | relays held events carried result =>
      cases standing with
      | fresh state free stays =>
          rw [free] at held
          cases held
      | once follows last stands =>
          rcases stands with ⟨bridging, _⟩ | ⟨_, free⟩
          · refine .once (List.isChain_append.mpr ⟨follows, List.isChain_singleton _, ?_⟩) ?_ ?_
            · rintro one before next after
              rw [last] at before
              cases before
              cases after
              rw [bridging]
              rfl
            · simp
            · exact Or.inr ⟨rfl, rfl⟩
          · rw [free] at held
            cases held
      | again strays stands =>
          refine .again (fun follows => ?_) (Or.inr rfl)
          exact strays follows.left_of_append

/-- A bridge and all that it was told to do. -/
structure Lived (calls : List (Call β)) (accounts : List (Account β)) (b : Bridge β) : Prop where
  standing : Standing b (.requested :: accounts.flatMap Account.states)
    (calls.countP Call.isConnect)
  dialled : accounts.countP Account.dialled = calls.countP Call.isConnect
  opened : accounts.filterMap Account.opened = calls.filterMap Call.backend?

theorem Lived.does {calls : List (Call β)} {accounts : List (Account β)} {b next : Bridge β}
    (lived : Lived calls accounts b) {call : Call β} {account : Account β}
    (does : b.Does call account next) : Lived (calls ++ [call]) (accounts ++ [account]) next := by
  have dialled : account.dialled = call.isConnect := by cases does <;> rfl
  have opened : account.opened = call.backend? := by cases does <;> rfl
  refine ⟨?_, ?_, ?_⟩
  · have after := lived.standing.does does
    simpa [List.countP_append, List.countP_singleton] using after
  · rw [List.countP_append, List.countP_append, lived.dialled, List.countP_singleton,
      List.countP_singleton, dialled]
  · rw [List.filterMap_append, List.filterMap_append, lived.opened]
    simp [List.filterMap_cons, opened]

theorem lived_performAll? (session : SessionId) (address : Address) (calls : List (Call β))
    {accounts : List (Account β)} {b : Bridge β}
    (returned : (new session address).performAll? calls = some (accounts, b)) :
    Lived calls accounts b := by
  induction calls using List.reverseRecOn generalizing accounts b with
  | nil =>
      cases returned
      exact ⟨.fresh rfl rfl rfl, rfl, rfl⟩
  | append_singleton calls call ih =>
      rw [performAll?_concat] at returned
      obtain ⟨⟨before, between⟩, gone, last⟩ := Option.bind_eq_some_iff.mp returned
      obtain ⟨⟨account, next⟩, told, same⟩ := Option.map_eq_some_iff.mp last
      cases same
      exact (ih gone).does (does_of_perform? told)

/-- Without a connection nothing but a connect does anything. -/
theorem performAll?_of_free {b : Bridge β} (free : b.backend = none) {calls : List (Call β)}
    (unconnected : calls.countP Call.isConnect = 0) :
    b.performAll? calls = some (List.replicate calls.length .refused, b) := by
  induction calls with
  | nil => rfl
  | cons call rest ih =>
      rw [List.countP_eq_zero] at unconnected
      cases call with
      | connect outcome => exact absurd rfl (unconnected _ List.mem_cons_self)
      | relay events =>
          have later := ih (List.countP_eq_zero.mpr fun other inside =>
            unconnected other (List.mem_cons_of_mem _ inside))
          rw [performAll?, perform?_relay_of_none free]
          change (b.performAll? rest).bind _ = _
          rw [later]
          rfl

theorem Standing.follows_iff {b : Bridge β} {path : List State} {connects : Nat}
    (standing : Standing b path connects) :
    (path.IsChain fun one next => one.leadsTo next = true) ↔ connects ≤ 1 := by
  cases standing with
  | fresh state free stays =>
      rw [stays]
      exact iff_of_true (List.isChain_singleton _) (Nat.zero_le 1)
  | once follows last stands => exact iff_of_true follows (Nat.le_refl 1)
  | again strays stands => exact iff_of_false strays (by omega)

theorem Standing.isSome_iff {b : Bridge β} {path : List State} {connects : Nat}
    (standing : Standing b path connects) (few : connects ≤ 1) :
    b.backend.isSome = true ↔ b.state = .bridging := by
  cases standing with
  | fresh state free stays => simp [state, free]
  | once follows last stands =>
      rcases stands with ⟨bridging, held⟩ | ⟨closed, free⟩
      · simp [bridging, held]
      · simp [closed, free]
  | again strays stands => omega

/-- A bridge that is closed was connected. -/
theorem Standing.connected {b : Bridge β} {path : List State} {connects : Nat}
    (standing : Standing b path connects) (closed : b.state = .closed) : 1 ≤ connects := by
  cases standing with
  | fresh state free stays =>
      rw [state] at closed
      cases closed
  | once | again => omega

/--
A bridge that was told to connect and to relay, in any order and as often as one
likes, however its dials go and its relays end.

Every connect dials, and opens a connection if its dial is answered.  The bridge
goes along the arrows of the diagram if and only if it is told to connect at most
once.  While it is bridging it holds a connection; a connection that is held
otherwise is held by a bridge that is closed, after a second connect.  Without a
connection a relay is refused and changes nothing.

With one connect in all at most one connection is opened, a connection is held
just while the bridge is bridging, and once the bridge is closed no call does
anything any more.
-/
theorem calls_run (session : SessionId) (address : Address) (calls : List (Call β))
    {accounts : List (Account β)} {b : Bridge β}
    (returned : (new session address).performAll? calls = some (accounts, b)) :
    let path := State.requested :: accounts.flatMap Account.states
    let connects := calls.countP Call.isConnect
    let opened := accounts.filterMap Account.opened
    (accounts.countP Account.dialled = connects ∧ opened = calls.filterMap Call.backend?) ∧
    ((path.IsChain fun one next => one.leadsTo next = true) ↔ connects ≤ 1) ∧
    (b.state = .bridging → b.backend.isSome = true) ∧
    (b.backend.isSome = true → b.state = .bridging ∨ b.state = .closed ∧ 2 ≤ connects) ∧
    (b.backend = none → ∀ events, b.perform? (.relay events) = some (.refused, b)) ∧
    (connects ≤ 1 →
      opened.length ≤ 1 ∧ (b.backend.isSome = true ↔ b.state = .bridging) ∧
      (b.state = .closed → ∀ rest, (calls ++ rest).countP Call.isConnect ≤ 1 →
        b.performAll? rest = some (List.replicate rest.length .refused, b))) := by
  intro path connects opened
  have lived := lived_performAll? session address calls returned
  have standing : Standing b path connects := lived.standing
  refine ⟨⟨lived.dialled, lived.opened⟩, standing.follows_iff, ?_, ?_,
    perform?_relay_of_none, ?_⟩
  · intro bridging
    rcases Nat.eq_zero_or_pos connects with none_yet | some_yet
    · exact (standing.isSome_iff (by omega)).mpr bridging
    · obtain ⟨before, same⟩ := Nat.exists_eq_add_one.mpr some_yet
      rw [same] at standing
      rcases standing.either with ⟨_, held⟩ | closed
      · exact held
      · rw [closed] at bridging
        cases bridging
  · intro held
    rcases Nat.lt_or_ge connects 2 with few | many
    · exact Or.inl ((standing.isSome_iff (by omega)).mp held)
    · obtain ⟨before, same⟩ := Nat.exists_eq_add_one.mpr (show 0 < connects by omega)
      rw [same] at standing
      exact standing.either.imp And.left fun closed => ⟨closed, many⟩
  · intro few
    refine ⟨?_, standing.isSome_iff few, fun closed rest alone => ?_⟩
    · have opens : opened.length ≤ connects := by
        change (accounts.filterMap Account.opened).length ≤ calls.countP Call.isConnect
        rw [lived.opened, List.length_filterMap_eq_countP]
        refine List.countP_mono_left fun call _ opens => ?_
        cases call with
        | connect outcome => rfl
        | relay events => cases opens
      omega
    · have free : b.backend = none := by
        rw [← Option.not_isSome_iff_eq_none, standing.isSome_iff few, closed]
        nofun
      refine performAll?_of_free free ?_
      have dialled := standing.connected closed
      rw [List.countP_append] at alone
      omega

/-- The bridge of a channel has been told to connect, once. -/
theorem performAll?_of_create {session : SessionId} {address : Address}
    {outcome : Except Channel.Error β} {b : Bridge β}
    (created : create session address outcome = .ok b) :
    ∃ account, (new session address).performAll? [.connect outcome] = some ([account], b) := by
  cases outcome with
  | error cause => cases created
  | ok backend =>
      cases created
      exact ⟨_, rfl⟩

/-- A bridge that is connected and relays the end of its stream. -/
theorem calls_run_of_channel :
    let b : Bridge Unit := new ⟨1⟩ (.localhost 830)
    let out := Relay.Direction.clientToBackend
    let calls : List (Call Unit) :=
      [.connect (.ok ()), .relay [.finishes out, .reads out 1, .shuts none, .shuts none]]
    ∃ accounts last, b.performAll? calls = some (accounts, last) ∧
      (State.requested :: accounts.flatMap Account.states) =
        [.requested, .connecting, .bridging, .closed] ∧
      last.performAll? [.relay [.drops]] = some ([.refused], last) := by
  intro b out calls
  let summary : Relay.Summary := ⟨0, 0, out⟩
  let accounts : List (Account Unit) :=
    [⟨[.connecting, .bridging], true, some (), 0, .ok none⟩,
      ⟨[.closed], false, none, 0, .ok (some summary)⟩]
  let last : Bridge Unit := ⟨⟨1⟩, .localhost 830, .closed, none⟩
  have returned : b.performAll? calls = some (accounts, last) := by
    cbv
  obtain ⟨_, _, _, _, _, once⟩ := calls_run ⟨1⟩ (.localhost 830) calls returned
  obtain ⟨_, _, follows⟩ := once (Nat.le_refl 1)
  exact ⟨accounts, last, returned, rfl, follows rfl [.relay [.drops]] (Nat.le_refl 1)⟩

/-- A bridge that is connected twice, the second time in vain: it is closed, holds
the first connection, and relays a byte over it. -/
theorem calls_run_reconnected :
    let b : Bridge Unit := new ⟨1⟩ (.localhost 830)
    let out := Relay.Direction.clientToBackend
    let calls : List (Call Unit) := [.connect (.ok ()), .connect (.error .groupShutdown)]
    let events : List Crossing.Event :=
      [.produces out [120], .finishes out, .reads out 1, .writes out 1, .flushes out, .reads out 1,
        .shuts none, .shuts none]
    ∃ accounts closed, b.performAll? calls = some (accounts, closed) ∧
      State.requested :: accounts.flatMap Account.states =
        [.requested, .connecting, .bridging, .connecting, .closed] ∧
      State.bridging.leadsTo .connecting = false ∧
      accounts.countP Account.dialled = 2 ∧
      closed.state = .closed ∧ closed.backend = some () ∧
      ∃ account last, closed.perform? (.relay events) = some (account, last) ∧
        account.carried = 1 ∧ account.result = .ok (some ⟨1, 0, out⟩) := by
  intro b out calls events
  refine ⟨_, _, rfl, rfl, rfl, rfl, rfl, rfl, ?_⟩
  let account : Account Unit := ⟨[.closed], false, none, 1, .ok (some ⟨1, 0, out⟩)⟩
  refine ⟨account, ⟨⟨1⟩, .localhost 830, .closed, none⟩, ?_, rfl, rfl⟩
  cbv

end Bridge

end NetconfGate
