import NetconfGate.Proofs.Server.Outlook

/-!
# A client among others

What happens to a client is done to its own visit, to its own tasks and to its
guest. So it is served as it would be by itself, and nothing is done for the
others.
-/

namespace NetconfGate

open Channel

/-- Of the backend it is only told whether it is there. -/
theorem Secure.Session.request_alike {β γ ε φ : Type} (s : Secure.Session)
    (subsystems : List String) (channel : Nat) (name : String) {one : Except ε β}
    {other : Except φ γ} (alike : one.isOk = other.isOk) (spawn : Bool) :
    let first := s.request subsystems channel name one spawn
    let second := s.request subsystems channel name other spawn
    first.session = second.session ∧ first.success = second.success ∧
      first.closed = second.closed := by
  intro first second
  simp only [first, second, Secure.Session.request]
  cases s.claims subsystems channel name with
  | false => exact ⟨rfl, rfl, rfl⟩
  | true => cases one <;> cases other <;> first | exact ⟨rfl, rfl, rfl⟩ | cases alike

namespace Server

namespace Traffic

variable {t : Traffic} {number : Nat} {visit : Visit}

theorem heard?_eq (held : t.visits[number]? = some visit) :
    t.heard? number = if visit.up && !visit.gone then some visit else none := by
  rw [heard?, held, Option.filter_some]

theorem isSome_loggedIn? (held : t.visits[number]? = some visit) :
    (t.loggedIn? number).isSome =
      (visit.up && !visit.gone && visit.session.authenticated) := by
  rw [loggedIn?, heard?_eq held]
  cases visit.up && !visit.gone with
  | false => rfl
  | true =>
      rw [if_pos rfl, Option.filter_some]
      cases visit.session.authenticated <;> rfl

theorem link?_eq (held : t.visits[number]? = some visit) (index : Nat) :
    t.link? number index =
      (visit.links[index]?.filter fun link => t.service.group.isRunning link.task).map
        fun link => (visit, link) := by
  unfold link?
  rw [held, Option.bind_eq_bind, Option.bind_some, Option.bind_eq_bind]
  cases visit.links[index]? with
  | none => rfl
  | some link =>
      cases runs : t.service.group.isRunning link.task <;> simp [Option.filter, runs]

/-- A connected bridge is started in the next task, if the group takes one more. -/
theorem start?_eq (t : Traffic) (channel : Nat) (id : SessionId) (backend : Departure) :
    t.start? channel (.ok ⟨id, t.backend, .bridging, some backend⟩) =
      if t.service.group.draining then none
      else
        some (⟨channel, backend, ⟨id, t.backend, .bridging, none⟩, .new,
            t.service.group.tasks.length⟩,
          { t.service with
            group := { t.service.group with tasks := t.service.group.tasks ++ [none] } }) := by
  rcases t.service.spawn_eq with ⟨drains, refused⟩ | ⟨isOpen, taken⟩
  · rw [if_pos drains]
    simp only [start?, refused]
    rfl
  · rw [if_neg (by simp [isOpen])]
    simp only [start?, taken]
    rfl

end Traffic

theorem map_closed (closed : Bool) (channel : Nat) :
    (if closed then [Observation.channelClosed channel] else []).map Sight.shown =
      if closed then [.shown (.channelClosed channel)] else [] := by
  cases closed <;> rfl

/-! ## What is done for one client -/

section Serving

variable {κ : Type} {c next : Concourse κ} {who : κ} {number : Nat} {visit : Visit}

/-- Something was done for one client, and nothing for the others. -/
structure Concourse.Beside (c next : Concourse κ) (who : κ) (number : Nat) : Prop where
  touches : c.traffic.Touches next.traffic number
  stage : next.stage = c.stage
  acceptor : next.bound.acceptor = c.bound.acceptor
  address : next.bound.address = c.bound.address
  own : next.number? who = some number
  inside : number < next.traffic.visits.length
  others : ∀ other, other ≠ who →
    next.number? other = c.number? other ∧ next.guests other = c.guests other

theorem Concourse.Beside.trans {middle : Concourse κ} (first : c.Beside middle who number)
    (second : middle.Beside next who number) : c.Beside next who number where
  touches := first.touches.trans second.touches
  stage := second.stage.trans first.stage
  acceptor := second.acceptor.trans first.acceptor
  address := second.address.trans first.address
  own := second.own
  inside := second.inside
  others := fun other different =>
    ⟨(second.others other different).1.trans (first.others other different).1,
      (second.others other different).2.trans (first.others other different).2⟩

/-- A client has a visit of its own, with tasks of its own. -/
structure Concourse.Visited (c : Concourse κ) (who : κ) (number : Nat) (visit : Visit) : Prop where
  owned : c.traffic.Owned
  numbered : c.number? who = some number
  held : c.traffic.visits[number]? = some visit

namespace Concourse.Visited

section

variable (visited : c.Visited who number visit)
include visited

theorem nodup : visit.tasks.Nodup := by
  have owned := visited.owned.tasks.nodup number
  rwa [Traffic.keysAt_of_held visited.held] at owned

theorem inside {task : Nat} (member : task ∈ visit.tasks) : task < c.group.tasks.length :=
  (visited.owned.tasks.inside number task (Traffic.keysAt_of_held visited.held ▸ member)).2

theorem party?_eq : c.party? who = some (visit.party c.group (c.guests who)) := by
  simp [Concourse.party?, visited.numbered, visited.held]

theorem hears_eq : c.hears who number = (visit.party c.group (c.guests who)).hears := by
  rw [Concourse.hears, Traffic.isSome_loggedIn? visited.held]
  simp [Party.hears, Party.isHeard, Visit.party, Concourse.isFree, Bool.and_assoc]

theorem loggedIn_of_hears (hears : c.hears who number = true) :
    c.traffic.loggedIn? number = some visit := by
  unfold Concourse.hears at hears
  obtain ⟨other, logged⟩ := Option.isSome_iff_exists.mp (Bool.and_eq_true_iff.mp hears).2
  have same := Traffic.held_of_heard (Traffic.heard_of_loggedIn logged)
  rw [visited.held] at same
  cases same
  exact logged

theorem link?_eq (index : Nat) :
    c.traffic.link? number index =
      (visit.links[index]?.filter fun link => (c.group.outcome? link.task).isNone).map
        fun link => (visit, link) := by
  rw [Traffic.link?_eq visited.held]
  cases held : visit.links[index]? with
  | none => rfl
  | some link =>
      rw [Option.filter_some, Option.filter_some]
      rw [← Group.isRunning_eq (visited.inside (visit.mem_tasks_of_link held))]
      rfl

/-- Its session comes up while its task runs. -/
theorem event_identifies {task : Nat} (arrived : visit.arrival.task = some task)
    (going : c.group.outcome? task = none) :
    (c.event (.identifies number)).1 =
      c.setTraffic (c.traffic.setVisit number { visit with up := true }) := by
  have runs : c.group.isRunning task = true := by
    rw [Group.isRunning_eq (visited.inside (visit.mem_tasks arrived)), going]
    rfl
  have served : c.traffic.served? number = some visit := by
    rw [Traffic.served?, visited.held, Option.filter_some, if_pos]
    rw [Traffic.isServed, arrived]
    exact runs
  simp only [Concourse.event, Traffic.step, served]

/-- That it comes up is done for its client alone. -/
theorem beside_identifies :
    let next := c.setTraffic (c.traffic.setVisit number { visit with up := true })
    c.Beside next who number ∧ next.Visited who number { visit with up := true } := by
  intro next
  have touches : c.traffic.Touches next.traffic number :=
    Traffic.touches_setVisit visited.held rfl rfl
  have held : next.traffic.visits[number]? = some { visit with up := true } :=
    Traffic.held_setVisit visited.held _
  have inside := (List.getElem?_eq_some_iff.mp held).1
  exact ⟨⟨touches, rfl, rfl, rfl, visited.numbered, inside, fun _ _ => ⟨rfl, rfl⟩⟩,
    visited.owned.touched touches, visited.numbered, held⟩

end

end Concourse.Visited

variable [DecidableEq κ]

/-- What is done for a client, and what it gets to see, is as expected. -/
structure Concourse.Serves (c : Concourse κ) (who : κ) (number : Nat)
    (result : Concourse κ × List Sight) (expected : Party × List Sight) : Prop where
  beside : c.Beside result.1 who number
  party : result.1.party? who = some expected.1
  told : result.2 = expected.2

/-- A client is served as it would be by itself. -/
def Concourse.Alone (c : Concourse κ) (who : κ) (number : Nat) (visit : Visit)
    (happening : Happening) : Prop :=
  c.Serves who number (c.serve who number visit happening)
    ((visit.party c.group (c.guests who)).act c.traffic.setup.subsystems c.group.draining
      c.group.cancelled happening)

theorem Concourse.setGuest_self (c : Concourse κ) (who : κ) :
    c.setGuest who (c.guests who) = c := by
  unfold setGuest
  congr 1
  funext other
  split
  · rename_i same
    rw [same]
  · rfl

namespace Concourse.Visited

variable (visited : c.Visited who number visit)
include visited

/-- What is done to the visit and to the guest is all that is done. -/
theorem serves {t : Traffic} {guest : Guest} {after : Visit} {told : List Sight} {expected : Party}
    (touches : c.traffic.Touches t number) (held : t.visits[number]? = some after)
    (party : after.party t.service.group guest = expected) :
    c.Serves who number ((c.setTraffic t).setGuest who guest, told) (expected, told) where
  beside :=
    ⟨touches, rfl, rfl, rfl, visited.numbered, (List.getElem?_eq_some_iff.mp held).1,
      fun _ different => ⟨rfl, if_neg different⟩⟩
  party := by
    have after : ((c.setTraffic t).setGuest who guest).Visited who number after :=
      ⟨visited.owned.touched touches, visited.numbered, held⟩
    rw [after.party?_eq, ← party]
    exact congrArg (fun guest => some (Visit.party _ guest _)) (if_pos rfl)
  told := rfl

/-- The guest is left alone. -/
theorem serves_traffic {t : Traffic} {after : Visit} {told : List Sight} {expected : Party}
    (touches : c.traffic.Touches t number) (held : t.visits[number]? = some after)
    (party : after.party t.service.group (c.guests who) = expected) :
    c.Serves who number (c.setTraffic t, told) (expected, told) := by
  have served : c.Serves who number (_, told) _ := visited.serves touches held party
  rwa [show (c.setTraffic t).setGuest who (c.guests who) = c.setTraffic t from
    (c.setTraffic t).setGuest_self who] at served

/-- The traffic is left alone. -/
theorem serves_guest {guest : Guest} (told : List Sight) :
    c.Serves who number (c.setGuest who guest, told) (visit.party c.group guest, told) :=
  visited.serves (.refl _ _) visited.held rfl

theorem serves_idle (told : List Sight) :
    c.Serves who number (c, told) (visit.party c.group (c.guests who), told) :=
  visited.serves_traffic (.refl _ _) visited.held rfl

/-- The session of the visit changes, and maybe its channels. -/
theorem serves_session (session : Secure.Session) (guest : Guest) (told : List Sight) :
    c.Serves who number
      ((c.setTraffic (c.traffic.setSession number visit session)).setGuest who guest, told)
      ({ visit.party c.group guest with session := session }, told) :=
  visited.serves (Traffic.touches_setVisit visited.held rfl rfl)
    (Traffic.held_setVisit visited.held _) rfl

theorem attempts (accepted : Bool) :
    c.Alone who number visit (.attempts accepted) := by
  have heard : (visit.party c.group (c.guests who)).isHeard =
      (c.isFree who && (visit.up && !visit.gone)) := by
    simp [Party.isHeard, Visit.party, Concourse.isFree]
  simp only [Concourse.Alone, Concourse.serve, Party.act, heard]
  cases c.isFree who with
  | false => exact visited.serves_idle []
  | true =>
      simp only [if_true, Bool.true_and, Concourse.event, Traffic.step,
        Traffic.heard?_eq visited.held]
      cases visit.up && !visit.gone with
      | false => exact visited.serves_idle []
      | true =>
          exact visited.serves_traffic (Traffic.touches_setVisit visited.held rfl rfl)
            (Traffic.held_setVisit visited.held _) rfl

theorem opens (channel : Nat) :
    c.Alone who number visit (.opens channel) := by
  simp only [Concourse.Alone, Concourse.serve, Party.act, ← visited.hears_eq]
  cases hears : c.hears who number with
  | false => exact visited.serves_idle []
  | true =>
      simp only [if_true, Concourse.event, Traffic.step, visited.loggedIn_of_hears hears]
      exact visited.serves_session _ _ _

theorem closes (channel : Nat) :
    c.Alone who number visit (.closes channel) := by
  simp only [Concourse.Alone, Concourse.serve, Party.act, ← visited.hears_eq]
  cases hears : c.hears who number with
  | false => exact visited.serves_idle []
  | true =>
      simp only [if_true, Concourse.event, Traffic.step, visited.loggedIn_of_hears hears]
      exact visited.serves_session _ _ _

theorem gives (channel : Nat) (input : Input) :
    c.Alone who number visit (.gives channel input) := by
  simp only [Concourse.Alone, Concourse.serve, Party.act, ← visited.hears_eq]
  cases c.hears who number with
  | false => exact visited.serves_idle []
  | true => exact visited.serves_guest []

theorem requests (channel : Nat) (name : String) :
    c.Alone who number visit (.requests channel name) := by
  simp only [Concourse.Alone, Concourse.serve, Party.act, ← visited.hears_eq]
  cases c.hears who number with
  | false => exact visited.serves_idle []
  | true =>
      simp only [if_true, Concourse.ask]
      change c.Serves who number _
        (if visit.session.claims c.traffic.setup.subsystems channel name then _ else _)
      cases visit.session.claims c.traffic.setup.subsystems channel name with
      | false => exact visited.serves_idle _
      | true => exact visited.serves (Traffic.touches_dials _ _ _) visited.held rfl

theorem hangsUp :
    c.Alone who number visit .hangsUp := by
  simp only [Concourse.Alone, Concourse.serve, Party.act]
  change c.Serves who number _ (if c.isFree who = true then _ else _)
  cases c.isFree who with
  | false => exact visited.serves_idle []
  | true =>
      have hung : c.traffic.hangUp number =
          c.traffic.setVisit number visit.leave := by
        have inRange := (List.getElem?_eq_some_iff.mp visited.held).1
        refine congrArg (fun visits => { c.traffic with visits := visits })
          (List.ext_getElem? fun other => ?_)
        rw [List.getElem?_modify, List.getElem?_set]
        by_cases same : number = other
        · subst same
          rw [if_pos rfl, if_pos inRange, visited.held]
          simp
        · simp [same]
      simp only [if_true, hung]
      exact visited.serves (Traffic.touches_setVisit visited.held rfl rfl)
        (Traffic.held_setVisit visited.held _) rfl

theorem backs (index : Nat) (input : Input) :
    c.Alone who number visit (.backs index input) :=
  visited.serves_guest []

/-- Its own task ends, if it may. -/
theorem ends {task : Nat} (arrived : visit.arrival.task = some task) (guest : Guest)
    (outcome : Outcome) (told : List Sight) :
    c.Serves who number ((c.setGuest who guest).ends task outcome, told)
      (if mayEnd c.group.cancelled outcome then (visit.party c.group guest).ends outcome
        else visit.party c.group guest, told) := by
  have member := visit.mem_tasks arrived
  unfold Concourse.ends
  change c.Serves who number (if mayEnd c.group.cancelled outcome then _ else _, told) _
  cases mayEnd c.group.cancelled outcome with
  | false => exact visited.serves_guest told
  | true =>
      exact visited.serves (Traffic.touches_finish visited.held member outcome) visited.held
        (Visit.party_finish_own arrived visited.nodup (visited.inside member) outcome)

theorem fails (outcome : Outcome) :
    c.Alone who number visit (.fails outcome) := by
  simp only [Concourse.Alone, Concourse.serve, Party.act]
  cases arrived : visit.arrival.task with
  | none =>
      have nothing : (visit.party c.group (c.guests who)).ends outcome =
          visit.party c.group (c.guests who) := by
        simp [Party.ends, Visit.party, arrived]
      rw [nothing, ite_self]
      exact visited.serves_idle []
  | some task =>
      have served := visited.ends arrived (c.guests who) outcome []
      rw [Concourse.setGuest_self] at served
      rwa [← apply_ite (fun p : Party => (p, ([] : List Sight)))]

theorem drops (index : Nat) (outcome : Outcome) :
    c.Alone who number visit (.drops index outcome) := by
  simp only [Concourse.Alone, Concourse.serve, Party.act, visited.link?_eq, visit.tie?_party,
    Concourse.ends]
  cases found : visit.links[index]?.filter fun link => (c.group.outcome? link.task).isNone with
  | none => exact visited.serves_idle []
  | some link =>
      obtain ⟨held, going⟩ := Option.filter_eq_some_iff.mp found
      have member := visit.mem_tasks_of_link held
      simp only [Option.map_some]
      cases mayEnd c.group.cancelled outcome with
      | false => exact visited.serves_idle []
      | true =>
          exact visited.serves_traffic (Traffic.touches_finish visited.held member outcome)
            visited.held
            (Visit.party_drop held (Option.isNone_iff_eq_none.mp going) visited.nodup
              (visited.inside member) outcome)

/-- A keeper has been polled, and its task ends with it. -/
theorem polled {task : Nat} (arrived : visit.arrival.task = some task) (guest : Guest)
    (told : List Sight) :
    let outcome : Outcome := if c.group.cancelled then .cancelled else .completed
    c.Serves who number
      (if guest.keeper.stage = .finished then ((c.setGuest who guest).ends task outcome, told)
        else (c.setGuest who guest, told))
      (if guest.keeper.stage = .finished then ((visit.party c.group guest).ends outcome, told)
        else (visit.party c.group guest, told)) := by
  intro outcome
  have may : mayEnd c.group.cancelled outcome = true := by
    unfold outcome
    cases c.group.cancelled <;> rfl
  split
  · have served := visited.ends arrived guest outcome told
    simp only [may, if_true] at served
    exact served
  · exact visited.serves_guest told

theorem polls (f : Secure.Keeper.Findings) :
    c.Alone who number visit (.polls f) := by
  simp only [Concourse.Alone, Concourse.serve, Party.act]
  cases arrived : visit.arrival.task with
  | none =>
      have none_kept : (visit.party c.group (c.guests who)).task ≠ some none := by
        simp [Visit.party, arrived]
      rw [if_neg none_kept]
      exact visited.serves_idle []
  | some task =>
      have runs := Group.isRunning_eq (visited.inside (visit.mem_tasks arrived))
      have kept : (visit.party c.group (c.guests who)).task = some (c.group.outcome? task) := by
        simp [Visit.party, arrived]
      rw [Option.filter_some, runs, kept]
      cases going : c.group.outcome? task with
      | some outcome => exact visited.serves_idle []
      | none =>
          simp only [Option.isNone_none, if_true, Concourse.poll, Party.poll]
          -- The keeper finds the same, whoever asks.
          let found := { f with cancelled := c.group.cancelled, ended := visit.gone }
          let guest : Guest := { c.guests who with keeper := (c.guests who).keeper.poll found }
          have same : (visit.party c.group (c.guests who)).guest.keeper.takes?
              { f with
                cancelled := c.group.cancelled
                ended := (visit.party c.group (c.guests who)).gone } =
              (c.guests who).keeper.takes? found := rfl
          by_cases takes : (c.guests who).keeper.takes? found = some true
          · obtain ⟨beside, isUp⟩ := visited.beside_identifies
            have served := isUp.polled arrived guest
              (if guest.keeper.told = (c.guests who).keeper.told then []
                else (guest.keeper.told.map .told).toList)
            rw [same, takes, if_pos rfl, visited.event_identifies arrived going,
              decide_eq_true rfl, Bool.or_true]
            exact ⟨beside.trans served.beside, served.party, served.told⟩
          · rw [same, if_neg takes, decide_eq_false takes, Bool.or_false]
            exact visited.polled arrived guest _

/-- A pump of a link is answered, and the guest has seen to the bytes. -/
theorem relays {index : Nat} {link : Link} (held : visit.links[index]? = some link)
    (going : c.group.outcome? link.task = none) (direction : Relay.Direction)
    (event : Pump.Event) (guest : Guest) :
    let result := c.traffic.relay number index direction event visit link
    c.Serves who number ((c.setTraffic result.1).setGuest who guest, result.2.map .shown)
      ((visit.party c.group guest).relay index direction event (link.tie c.group)) := by
  intro result
  have member := visit.mem_tasks_of_link held
  have told : ∀ bytes : Bytes,
      (if bytes.isEmpty then [] else [Observation.delivered index direction bytes]).map
          Sight.shown =
        if bytes.isEmpty then [] else [.shown (.delivered index direction bytes)] := by
    intro bytes
    cases bytes.isEmpty <;> rfl
  simp only [result, Traffic.relay, Party.relay]
  change c.Serves who number _
    (if (link.relay.step direction event).1.ended.isSome = true then _ else _)
  cases (link.relay.step direction event).1.ended.isSome with
  | false =>
      let changed : Link := { link with relay := (link.relay.step direction event).1 }
      rw [if_neg (by decide), if_neg (by decide), told]
      exact visited.serves (Traffic.touches_setLink visited.held held changed rfl rfl)
        (Traffic.held_setVisit visited.held _) (Visit.party_set index changed)
  | true =>
      let changed : Link :=
        { link with relay := (link.relay.step direction event).1, bridge := link.bridge.finish }
      rw [if_pos rfl, if_pos rfl, List.map_append, told]
      have ended := Traffic.touches_finish visited.held member .completed
      have party : Visit.party _ guest _ = _ :=
        Visit.party_finish_link held (rfl : changed.task = link.task) visited.nodup
          (visited.inside member) .completed
      rw [going, Option.none_or] at party
      refine visited.serves (ended.trans ?_) (Traffic.held_setVisit visited.held _) party
      have still : (c.traffic.onService fun service =>
        service.finish link.task .completed).visits[number]? = some visit := visited.held
      exact Traffic.touches_setLink still held changed rfl rfl

theorem moves (index : Nat) (direction : Relay.Direction) (move : Move) :
    c.Alone who number visit (.moves index direction move) := by
  simp only [Concourse.Alone, Concourse.serve, Party.act, visited.link?_eq, visit.tie?_party]
  cases found : visit.links[index]?.filter fun link => (c.group.outcome? link.task).isNone with
  | none => exact visited.serves_idle []
  | some link =>
      obtain ⟨held, going⟩ := Option.filter_eq_some_iff.mp found
      have same : (visit.party c.group (c.guests who)).guest.move? index direction move
          (link.tie c.group).relay = (c.guests who).move? index direction move link.relay := rfl
      simp only [Option.map_some, same]
      cases (c.guests who).move? index direction move link.relay with
      | none => exact visited.serves_idle []
      | some answer =>
          obtain ⟨event, guest⟩ := answer
          have linked : c.traffic.link? number index = some (visit, link) := by
            rw [visited.link?_eq, found]
            rfl
          simp only [Concourse.event, Traffic.step, linked]
          exact visited.relays held (Option.isNone_iff_eq_none.mp going) direction event guest

/-- The request is answered, and no bridge is started. -/
theorem stays {t : Traffic} (touches : c.traffic.Touches t number)
    (held : t.visits[number]? = some visit) (tasks : t.service.group.tasks = c.group.tasks)
    (asked : Asked) {bridge : Except Bridge.Error (Bridge Departure)}
    (idle : t.start? asked.channel bridge = none) {outcome : Except Channel.Error Unit}
    (alike : bridge.isOk = outcome.isOk) :
    let result := t.answer number asked.channel asked.name bridge visit
    let response := visit.session.request c.traffic.setup.subsystems asked.channel asked.name
      outcome false
    c.Serves who number
      ((c.setTraffic result.1).setGuest who ((c.guests who).land asked.channel false),
        result.2.map .shown)
      ({ visit.party c.group ((c.guests who).land asked.channel false) with
          session := response.session },
        .shown (.reply asked.channel response.success) ::
          (if response.closed then [.shown (.channelClosed asked.channel)] else [])) := by
  intro result response
  obtain ⟨session, success, closed⟩ := Secure.Session.request_alike visit.session
    t.setup.subsystems asked.channel asked.name alike false
  rw [touches.setup] at session success closed
  have answered : result = (t.setSession number visit response.session,
      .reply asked.channel response.success ::
        (if response.closed then [.channelClosed asked.channel] else [])) := by
    simp only [result, Traffic.answer, idle, response, Option.isSome_none, touches.setup, session,
      success, closed]
  rw [answered, List.map_cons, map_closed]
  refine visited.serves (touches.trans (Traffic.touches_setVisit held rfl rfl))
    (Traffic.held_setVisit held _) ?_
  have same : Visit.party _ ((c.guests who).land asked.channel false)
      { visit with session := response.session } = _ :=
    Visit.party_congr fun task _ =>
      congrArg (fun tasks : List (Option Outcome) => tasks[task]?.join) tasks
  exact same

/-- The request is answered by a bridge that is started. -/
theorem starts (isOpen : c.group.draining = false) (asked : Asked) :
    let departed : Traffic := { c.traffic with service := c.traffic.service.depart.2 }
    let bridge : Bridge Departure :=
      ⟨visit.arrival.id, c.traffic.backend, .bridging, some c.traffic.service.depart.1⟩
    let result := departed.answer number asked.channel asked.name (.ok bridge) visit
    let response := visit.session.request c.traffic.setup.subsystems asked.channel asked.name
      (Except.ok () : Except Channel.Error Unit) true
    c.Serves who number
      ((c.setTraffic result.1).setGuest who ((c.guests who).land asked.channel true),
        result.2.map .shown)
      ({ visit.party c.group ((c.guests who).land asked.channel true) with
          session := response.session
          ties := (visit.party c.group (c.guests who)).ties ++
            [⟨asked.channel, .new, .bridging, none⟩] },
        .shown (.reply asked.channel response.success) ::
          (if response.closed then [.shown (.channelClosed asked.channel)] else [])) := by
  intro departed bridge result response
  have alike : (Except.ok bridge : Except Bridge.Error (Bridge Departure)).isOk =
      (Except.ok () : Except Channel.Error Unit).isOk := rfl
  obtain ⟨session, success, closed⟩ := Secure.Session.request_alike visit.session
    c.traffic.setup.subsystems asked.channel asked.name alike true
  let group := departed.service.group
  let link : Link :=
    ⟨asked.channel, c.traffic.service.depart.1, { bridge with backend := none }, .new,
      group.tasks.length⟩
  let service : Service :=
    { departed.service with group := { group with tasks := group.tasks ++ [none] } }
  have started : departed.start? asked.channel (.ok bridge) = some (link, service) :=
    (departed.start?_eq asked.channel visit.arrival.id c.traffic.service.depart.1).trans
      (if_neg (by rw [show departed.service.group.draining = false from isOpen]; decide))
  have answered : result =
      (Traffic.setVisit { departed with service := service } number
        { visit with session := response.session, links := visit.links ++ [link] },
      .reply asked.channel response.success ::
        (if response.closed then [.channelClosed asked.channel] else [])) := by
    simp only [result, Traffic.answer, started, response, ← session, ← success, ← closed]
    rfl
  have touches := Traffic.touches_start visited.held isOpen
    (rfl : link.task = c.traffic.service.group.tasks.length) rfl response.session
  rw [answered, List.map_cons, map_closed]
  refine visited.serves touches (Traffic.held_setVisit (t := departed) visited.held _) ?_
  exact Visit.party_start (rfl : link.task = group.tasks.length)
    (fun task member => visited.inside member) response.session

theorem lands (outcome : Except Channel.Error Unit) :
    c.Alone who number visit (.lands outcome) := by
  have same : (visit.party c.group (c.guests who)).guest.asked = (c.guests who).asked := rfl
  simp only [Concourse.Alone, Concourse.serve, Party.act, same]
  cases (c.guests who).asked with
  | none => exact visited.serves_idle []
  | some asked =>
      simp only [Concourse.land, Party.land]
      generalize (if asked.dialled then outcome else .error .groupShutdown) = connected
      cases connected with
      | error cause => exact visited.stays (.refl _ _) visited.held rfl asked rfl rfl
      | ok =>
          let departed : Traffic := { c.traffic with service := c.traffic.service.depart.2 }
          have landed : c.traffic.land visit.arrival.id (.ok ()) =
              (.ok ⟨visit.arrival.id, c.traffic.backend, .bridging,
                some c.traffic.service.depart.1⟩, departed) := rfl
          have started := departed.start?_eq asked.channel visit.arrival.id
            c.traffic.service.depart.1
          change _ = if c.group.draining then _ else _ at started
          simp only [landed]
          cases draining : c.group.draining with
          | true =>
              rw [draining, if_pos rfl] at started
              have served := visited.stays (Traffic.touches_depart _ _) visited.held rfl asked
                started (rfl : _ = (Except.ok () : Except Channel.Error Unit).isOk)
              rw [show departed.start? asked.channel _ = none from started]
              exact served
          | false =>
              rw [draining, if_neg (by decide)] at started
              have served := visited.starts draining asked
              rw [show departed.start? asked.channel _ = some _ from started]
              exact served

/-- Whatever happens to a client, it is served as it would be by itself. -/
theorem alone (happening : Happening) : c.Alone who number visit happening := by
  cases happening with
  | arrives | slips => exact visited.serves_idle []
  | attempts accepted => exact visited.attempts accepted
  | opens channel => exact visited.opens channel
  | gives channel input => exact visited.gives channel input
  | requests channel name => exact visited.requests channel name
  | lands outcome => exact visited.lands outcome
  | closes channel => exact visited.closes channel
  | hangsUp => exact visited.hangsUp
  | polls f => exact visited.polls f
  | backs index input => exact visited.backs index input
  | moves index direction move => exact visited.moves index direction move
  | fails outcome => exact visited.fails outcome
  | drops index outcome => exact visited.drops index outcome

end Concourse.Visited

end Serving

end Server

end NetconfGate
