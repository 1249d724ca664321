import NetconfGate.Proofs.Channel.Service
import NetconfGate.Server.Traffic

/-!
# Steps of the traffic

All that one event can do to the traffic of a server is said once, as a relation
with a constructor for each way in which an event is taken. The invariants of a
listening server and of a server that is over are read off from it.
-/

namespace NetconfGate.Server

open Channel

/-- The first task of the service is not one that ends with the visit or with a
link of it. -/
structure Visit.Apart (visit : Visit) : Prop where
  arrival : visit.arrival.task ≠ some 0
  links : ∀ link ∈ visit.links, link.task ≠ 0

namespace Traffic

/-- What an event makes of the traffic, and what its visit gets to see. -/
inductive Step (t : Traffic) : Event → Traffic → List Observation → Prop where
  | unheard (event : Event)
      (silent : ∀ number channel, event = .closes number channel → t.loggedIn? number = none) :
      Step t event t []
  | arrives {loop : Loop} (runs : t.service.group.isRunning loop.task = true)
      (told : List Observation) :
      Step t (.arrives loop)
        { t with
          service := (t.service.accept loop).2
          visits := t.visits ++ [.new (t.service.accept loop).1] }
        told
  | identifies {number : Nat} {visit : Visit} (served : t.served? number = some visit) :
      Step t (.identifies number) (t.setVisit number { visit with up := true }) []
  | attempts {number : Nat} {visit : Visit} (heard : t.heard? number = some visit)
      (accepted : Bool) :
      Step t (.attempts number accepted)
        (t.setSession number visit (visit.session.attempt accepted)) [.login accepted]
  | opens {number : Nat} {visit : Visit} (heard : t.loggedIn? number = some visit)
      (channel : Nat) :
      Step t (.opens number channel)
        (t.setSession number visit (visit.session.openChannel channel)) [.opened channel]
  | refuses {number : Nat} {visit : Visit} (heard : t.loggedIn? number = some visit)
      {channel : Nat} {name : String} (answer : PeerAnswer) (shutdown : Option Duration)
      (unclaimed : visit.session.claims t.setup.subsystems channel name = false) :
      Step t (.requests number channel name answer shutdown) t [.reply channel false]
  /-- The dial failed, or the group took no bridge. -/
  | dials {number : Nat} {visit : Visit} (heard : t.loggedIn? number = some visit)
      {channel : Nat} {name : String} (answer : PeerAnswer) (shutdown : Option Duration)
      (claimed : visit.session.claims t.setup.subsystems channel name = true) (success : Bool) :
      Step t (.requests number channel name answer shutdown)
        ((t.dial number channel visit answer shutdown).2.setSession number visit
          (visit.session.closeChannel channel))
        [.reply channel success, .channelClosed channel]
  | starts {number : Nat} {visit : Visit} (heard : t.loggedIn? number = some visit)
      {channel : Nat} {name : String} (answer : PeerAnswer) (shutdown : Option Duration)
      (claimed : visit.session.claims t.setup.subsystems channel name = true) {link : Link}
      {service : Service}
      (spawned : (t.dial number channel visit answer shutdown).2.service.spawn =
        .ok (link.task, service)) :
      Step t (.requests number channel name answer shutdown)
        (Traffic.setVisit
          { (t.dial number channel visit answer shutdown).2 with service := service } number
          { visit with
            session := visit.session.closeChannel channel
            links := visit.links ++ [link] })
        [.reply channel true]
  | closes {number : Nat} {visit : Visit} (heard : t.loggedIn? number = some visit)
      (channel : Nat) :
      Step t (.closes number channel)
        (t.setSession number visit (visit.session.closeChannel channel)) []
  | relays {number index : Nat} {visit : Visit} {link changed : Link}
      (linked : t.link? number index = some (visit, link)) (same : changed.task = link.task)
      (direction : Relay.Direction) (event : Pump.Event) (told : List Observation) :
      Step t (.relays number index direction event)
        (t.setVisit number { visit with links := visit.links.set index changed }) told
  | ends {number index : Nat} {visit : Visit} {link changed : Link}
      (linked : t.link? number index = some (visit, link)) (same : changed.task = link.task)
      (direction : Relay.Direction) (event : Pump.Event) (told : List Observation) :
      Step t (.relays number index direction event)
        (Traffic.setVisit { t with service := t.service.finish link.task .completed } number
          { visit with links := visit.links.set index changed })
        told
  | leaves {number : Nat} {visit : Visit} (stays : t.present? number = some visit) :
      Step t (.leaves number) (t.leave number visit) []

/-- A bridge that is started has a task of its own. -/
theorem start?_eq_some {t : Traffic} {channel : Nat}
    {bridge : Except Bridge.Error (Bridge Departure)} {link : Link} {service : Service}
    (started : t.start? channel bridge = some (link, service)) :
    t.service.spawn = .ok (link.task, service) ∧ ∃ b, bridge = .ok b := by
  cases bridge with
  | error cause => cases started
  | ok b =>
      refine ⟨?_, b, rfl⟩
      unfold start? at started
      dsimp only at started
      split at started
      · rename_i departure connected task next begun spawned
        cases started
        exact spawned
      · cases started

theorem request_step {t : Traffic} {number : Nat} {visit : Visit}
    (heard : t.loggedIn? number = some visit) (channel : Nat) (name : String)
    (answer : PeerAnswer) (shutdown : Option Duration) :
    t.Step (.requests number channel name answer shutdown)
      (t.request number channel name answer shutdown visit).1
      (t.request number channel name answer shutdown visit).2 := by
  cases claimed : visit.session.claims t.setup.subsystems channel name with
  | false =>
      have refused : t.request number channel name answer shutdown visit =
          (t, [.reply channel false]) := by
        simp [request, claimed]
      rw [refused]
      exact .refuses heard answer shutdown claimed
  | true =>
      rcases dialled : t.dial number channel visit answer shutdown with ⟨bridge, next⟩
      have same : next.setup = t.setup := by
        have kept : (t.dial number channel visit answer shutdown).2.setup = t.setup := rfl
        rw [dialled] at kept
        exact kept
      have session (spawn : Bool) := Secure.Session.session_request claimed bridge spawn
      cases started : next.start? channel bridge with
      | none =>
          have closes : (visit.session.request t.setup.subsystems channel name bridge
              false).closed = true := by
            unfold Secure.Session.request
            rw [if_pos claimed]
            cases bridge <;> rfl
          have dials := Step.dials heard answer shutdown claimed
            (visit.session.request t.setup.subsystems channel name bridge false).success
          rw [dialled] at dials
          simpa [request, claimed, dialled, started, same, session, closes] using dials
      | some begun =>
          obtain ⟨link, service⟩ := begun
          obtain ⟨spawned, connected, rfl⟩ := start?_eq_some started
          have begun : (t.dial number channel visit answer shutdown).2.service.spawn =
              .ok (link.task, service) := by
            rw [dialled]
            exact spawned
          have starts := Step.starts heard answer shutdown claimed begun
          rw [dialled] at starts
          have response : visit.session.request t.setup.subsystems channel name
              (ε := Bridge.Error) (.ok connected) true =
                ⟨visit.session.closeChannel channel, true, false, some connected⟩ := by
            unfold Secure.Session.request
            rw [if_pos claimed]
            rfl
          simpa [request, claimed, dialled, started, same, response] using starts

theorem relay_step {t : Traffic} {number index : Nat} {visit : Visit} {link : Link}
    (linked : t.link? number index = some (visit, link)) (direction : Relay.Direction)
    (event : Pump.Event) :
    t.Step (.relays number index direction event)
      (t.relay number index direction event visit link).1
      (t.relay number index direction event visit link).2 := by
  unfold relay
  dsimp only
  split
  · refine .ends linked ?_ direction event _
    rfl
  · refine .relays linked ?_ direction event _
    rfl

/-- Every event is taken in one of these ways. -/
theorem step_step (t : Traffic) (event : Event) :
    t.Step event (t.step event).1 (t.step event).2 := by
  cases event with
  | arrives loop =>
      by_cases runs : t.service.group.isRunning loop.task = true
      · simp only [step, runs, if_true]
        exact .arrives runs _
      · simp only [step, runs]
        exact .unheard _ nofun
  | identifies number =>
      cases served : t.served? number with
      | none =>
          simp only [step, served]
          exact .unheard _ nofun
      | some visit => simpa only [step, served] using Step.identifies served
  | attempts number accepted =>
      cases heard : t.heard? number with
      | none =>
          simp only [step, heard]
          exact .unheard _ nofun
      | some visit => simpa only [step, heard] using Step.attempts heard accepted
  | opens number channel =>
      cases heard : t.loggedIn? number with
      | none =>
          simp only [step, heard]
          exact .unheard _ nofun
      | some visit => simpa only [step, heard] using Step.opens heard channel
  | requests number channel name answer shutdown =>
      cases heard : t.loggedIn? number with
      | none =>
          simp only [step, heard]
          exact .unheard _ nofun
      | some visit =>
          simpa only [step, heard] using request_step heard channel name answer shutdown
  | closes number channel =>
      cases heard : t.loggedIn? number with
      | none =>
          simp only [step, heard]
          exact .unheard _ (by intro _ _ same; cases same; exact heard)
      | some visit => simpa only [step, heard] using Step.closes heard channel
  | relays number index direction event =>
      cases linked : t.link? number index with
      | none =>
          simp only [step, linked]
          exact .unheard _ nofun
      | some found =>
          obtain ⟨visit, link⟩ := found
          simpa only [step, linked] using relay_step linked direction event
  | leaves number =>
      cases stays : t.present? number with
      | none =>
          simp only [step, stays]
          exact .unheard _ nofun
      | some visit => simpa only [step, stays] using Step.leaves stays

theorem held_of_heard {t : Traffic} {number : Nat} {visit : Visit}
    (heard : t.heard? number = some visit) : t.visits[number]? = some visit :=
  (Option.filter_eq_some_iff.mp heard).1

theorem held_of_served {t : Traffic} {number : Nat} {visit : Visit}
    (served : t.served? number = some visit) : t.visits[number]? = some visit :=
  (Option.filter_eq_some_iff.mp served).1

theorem held_of_present {t : Traffic} {number : Nat} {visit : Visit}
    (stays : t.present? number = some visit) : t.visits[number]? = some visit :=
  (Option.filter_eq_some_iff.mp stays).1

theorem mem_of_heard {t : Traffic} {number : Nat} {visit : Visit}
    (heard : t.heard? number = some visit) : visit ∈ t.visits :=
  List.mem_of_getElem? (held_of_heard heard)

theorem heard_of_loggedIn {t : Traffic} {number : Nat} {visit : Visit}
    (heard : t.loggedIn? number = some visit) : t.heard? number = some visit :=
  (Option.filter_eq_some_iff.mp heard).1

theorem authenticated_of_loggedIn {t : Traffic} {number : Nat} {visit : Visit}
    (heard : t.loggedIn? number = some visit) : visit.session.authenticated = true :=
  (Option.filter_eq_some_iff.mp heard).2

theorem held_of_linked {t : Traffic} {number index : Nat} {visit : Visit} {link : Link}
    (linked : t.link? number index = some (visit, link)) :
    t.visits[number]? = some visit ∧ visit.links[index]? = some link := by
  obtain ⟨found, first, rest⟩ := Option.bind_eq_some_iff.mp linked
  obtain ⟨held, second, last⟩ := Option.bind_eq_some_iff.mp rest
  split at last
  · cases last
    exact ⟨first, second⟩
  · cases last

theorem mem_of_linked {t : Traffic} {number index : Nat} {visit : Visit} {link : Link}
    (linked : t.link? number index = some (visit, link)) :
    visit ∈ t.visits ∧ link ∈ visit.links :=
  ⟨List.mem_of_getElem? (held_of_linked linked).1, List.mem_of_getElem? (held_of_linked linked).2⟩

/-- A visit that leaves ends its own task, if it has one. -/
theorem service_leave (t : Traffic) (number : Nat) (visit : Visit) :
    (t.leave number visit).service = t.service ∨
      ∃ task, visit.arrival.task = some task ∧
        (t.leave number visit).service = t.service.finish task .completed := by
  unfold leave
  cases visit.arrival.task with
  | none => exact Or.inl rfl
  | some task => exact Or.inr ⟨task, rfl, rfl⟩

/-- What is to be had at a listening server never changes. -/
theorem Step.fixed {t next : Traffic} {event : Event} {told : List Observation}
    (step : t.Step event next told) : next.setup = t.setup ∧ next.backend = t.backend := by
  cases step <;> exact ⟨rfl, rfl⟩

/-- A service that is over stays as it is, whatever its clients still do. -/
theorem Step.service_of_over {t next : Traffic} {event : Event} {told : List Observation}
    (step : t.Step event next told) (isOver : t.service.Over) : next.service = t.service := by
  cases step with
  | unheard | refuses | identifies | attempts | opens | closes | relays => rfl
  | arrives runs =>
      rw [isOver.still] at runs
      cases runs
  | dials heard answer shutdown => exact isOver.dial _ _ answer shutdown
  | starts heard answer shutdown claimed spawned =>
      change (t.service.dial t.backend _ answer shutdown).service.spawn = _ at spawned
      rw [isOver.dial, isOver.spawn] at spawned
      cases spawned
  | ends linked same direction event told => exact isOver.finish _ _
  | @leaves number visit =>
      rcases t.service_leave number visit with same | ⟨task, _, finished⟩
      · exact same
      · rw [finished]
        exact isOver.finish task _

/-- The service listens, and its loop ends with no visit and with no link. -/
structure Listens (t : Traffic) (acceptor : Nat) (address : Address) : Prop where
  service : t.service.Listens acceptor address
  visits : ∀ visit ∈ t.visits, visit.Apart

theorem apart_setVisit {t : Traffic} {visit : Visit} (apart : visit.Apart)
    (visits : ∀ other ∈ t.visits, other.Apart) (number : Nat) :
    ∀ other ∈ (t.setVisit number visit).visits, other.Apart := by
  intro other member
  rcases List.mem_or_eq_of_mem_set member with before | rfl
  · exact visits other before
  · exact apart

theorem apart_setSession {t : Traffic} {visit : Visit} (known : visit ∈ t.visits)
    (visits : ∀ other ∈ t.visits, other.Apart) (number : Nat) (session : Secure.Session) :
    ∀ other ∈ (t.setSession number visit session).visits, other.Apart := by
  have apart : ({ visit with session := session } : Visit).Apart :=
    ⟨(visits visit known).arrival, (visits visit known).links⟩
  exact apart_setVisit apart visits number

theorem apart_changed {visit : Visit} (apart : visit.Apart) {link changed : Link}
    (held : link ∈ visit.links) (same : changed.task = link.task) (index : Nat) :
    ({ visit with links := visit.links.set index changed } : Visit).Apart := by
  refine ⟨apart.arrival, ?_⟩
  intro other member
  rcases List.mem_or_eq_of_mem_set member with before | rfl
  · exact apart.links other before
  · rw [same]
    exact apart.links link held

/-- A server that listens goes on listening through all that its clients do. -/
theorem Listens.step {t next : Traffic} {acceptor : Nat} {address : Address}
    (listens : t.Listens acceptor address) {event : Event} {told : List Observation}
    (step : t.Step event next told) : next.Listens acceptor address := by
  obtain ⟨service, visits⟩ := listens
  cases step with
  | unheard | refuses => exact ⟨service, visits⟩
  | @arrives loop runs told =>
      obtain ⟨listening, other⟩ := service.accept loop
      refine ⟨listening, ?_⟩
      intro visit member
      rcases List.mem_append.mp member with before | added
      · exact visits visit before
      · rw [List.mem_singleton.mp added]
        exact ⟨other, fun link none_held => by cases none_held⟩
  | @identifies number visit served =>
      have apart := visits visit (List.mem_of_getElem? (held_of_served served))
      have up : ({ visit with up := true } : Visit).Apart := ⟨apart.arrival, apart.links⟩
      exact ⟨service, apart_setVisit up visits number⟩
  | attempts heard =>
      exact ⟨service, apart_setSession (mem_of_heard heard) visits _ _⟩
  | opens heard | closes heard =>
      exact ⟨service, apart_setSession (mem_of_heard (heard_of_loggedIn heard)) visits _ _⟩
  | dials heard answer shutdown =>
      exact ⟨service.dial _ _ answer shutdown,
        apart_setSession (mem_of_heard (heard_of_loggedIn heard)) visits _ _⟩
  | @starts number visit heard channel name answer shutdown claimed link begun spawned =>
      have apart := visits visit (mem_of_heard (heard_of_loggedIn heard))
      obtain ⟨listening, other⟩ := (service.dial t.backend _ answer shutdown).spawn spawned
      have linked : ({ visit with
          session := visit.session.closeChannel channel
          links := visit.links ++ [link] } : Visit).Apart := by
        refine ⟨apart.arrival, ?_⟩
        intro held member
        rcases List.mem_append.mp member with before | added
        · exact apart.links held before
        · rw [List.mem_singleton.mp added]
          exact other
      exact ⟨listening, apart_setVisit linked visits number⟩
  | relays linked same =>
      obtain ⟨known, held⟩ := mem_of_linked linked
      exact ⟨service, apart_setVisit (apart_changed (visits _ known) held same _) visits _⟩
  | ends linked same =>
      obtain ⟨known, held⟩ := mem_of_linked linked
      refine ⟨service.finish ((visits _ known).links _ held) _, ?_⟩
      exact apart_setVisit (apart_changed (visits _ known) held same _) visits _
  | @leaves number visit stays =>
      have apart := visits visit (List.mem_of_getElem? (held_of_present stays))
      have left : visit.leave.Apart := ⟨apart.arrival, apart.links⟩
      refine ⟨?_, apart_setVisit left visits number⟩
      rcases t.service_leave number visit with same | ⟨task, arrived, finished⟩
      · rw [same]
        exact service
      · rw [finished]
        exact service.finish (fun zero => apart.arrival (zero ▸ arrived)) _

end Traffic

end NetconfGate.Server
