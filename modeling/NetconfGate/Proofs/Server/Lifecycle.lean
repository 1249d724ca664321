import NetconfGate.Proofs.Server.Traffic
import NetconfGate.Server.Run

/-!
# The lifecycle of a server

Of all the services that a server ever takes, the one that it listens on is the
only one that is not closed: a bind that fails closes what it took, and a close
closes the rest.  So a server that failed to listen is as good as new.
-/

namespace NetconfGate.Server

open Channel

variable {α : Type}

/-- The stages that come before a service is taken, the last of them the taking
of it. -/
def prepare (config : Configuration α HostKey.Source) (around : Surroundings) :
    Except Error (Timeouts × List HostKey) := do
  let timeouts ← config.usableTimeouts.mapError .configuration
  let load := config.keySource.load around.mask around.seed around.tree
  let keys ← load.result.mapError .hostKey
  let _ ← (Service.onPool around.pool).mapError .resources
  return (timeouts, keys)

/-- How many services a bind takes from its pool. -/
def taken (config : Configuration α HostKey.Source) (around : Surroundings) : Nat :=
  if (prepare config around).isOk then 1 else 0

/-- The stages that come once a service is had. -/
def establish (policy : CipherPolicy) (config : Configuration α HostKey.Source)
    (around : Surroundings) (timeouts : Timeouts) (keys : List HostKey) : Except Error Address := do
  (around.transport ((new policy).setupOf around keys timeouts)).mapError .transport
  (Service.openSocket config.bindingAddress (around.socket config.bindingAddress)).1.mapError .bind

/-- What a bind comes to when every stage is gone through: the first failure, or
the address that is listened on. -/
def outcome (policy : CipherPolicy) (config : Configuration α HostKey.Source)
    (around : Surroundings) : Except Error Address := do
  let (timeouts, keys) ← prepare config around
  establish policy config around timeouts keys

/-- Listening as it was configured, and nobody has come yet. -/
structure Bound.Begins (b : Bound) (config : Configuration α HostKey.Source)
    (address : Address) : Prop where
  found : b.address = address
  listens : b.traffic.service.Listens b.acceptor address
  departures : b.traffic.service.departures = []
  subsystems : b.traffic.setup.subsystems = [Bridge.subsystem]
  backend : b.traffic.backend = config.backendAddress
  visits : b.traffic.visits = []
  dials : b.traffic.dials = []

/-- Nothing listens, and the services that were taken for it are over. -/
structure Fails (s : Server) (cause : Error) (taken : Nat) (report : Report) : Prop where
  result : report.result = .error cause
  server : ∃ made, report.server = { s with released := s.released ++ made } ∧
    made.length = taken ∧ ∀ service ∈ made, service.Over

/-- The server listens now. -/
structure Succeeds (s : Server) (config : Configuration α HostKey.Source) (address : Address)
    (report : Report) : Prop where
  result : report.result = .ok ()
  server : ∃ b, report.server = { s with lifecycle := .bound b } ∧ b.Begins config address

theorem abandon_eq (s : Server) (service : Service) (isOpen : service.closed = false) :
    ∃ made, (s.abandon service).1 = { s with released := s.released ++ [made] } ∧ made.Over :=
  ⟨_, rfl, Service.over_close isOpen _⟩

theorem listen_new (s : Server) (config : Configuration α HostKey.Source) (around : Surroundings)
    (setup : Secure.Setup) (subsystems : setup.subsystems = [Bridge.subsystem]) (tree : FileTree) :
    match (Service.openSocket config.bindingAddress (around.socket config.bindingAddress)).1 with
    | .error cause => s.Fails (.bind cause) 1 (s.listen config around setup .new tree)
    | .ok address => s.Succeeds config address (s.listen config around setup .new tree) := by
  have bound := Service.bind_acceptor_new config.bindingAddress
    (around.socket config.bindingAddress)
  dsimp only at bound
  cases opened : (Service.openSocket config.bindingAddress
      (around.socket config.bindingAddress)).1 with
  | error cause =>
      rw [opened] at bound
      obtain ⟨failed, service⟩ := bound
      obtain ⟨made, released, isOver⟩ := s.abandon_eq Service.new.acceptor.2 rfl
      have result : (s.listen config around setup .new tree).result = .error (.bind cause) := by
        simp only [listen, failed]
      have server : (s.listen config around setup .new tree).server =
          (s.abandon Service.new.acceptor.2).1 := by
        simp only [listen, failed, service]
      exact ⟨result, [made], server.trans released, rfl, by simpa using isOver⟩
  | ok address =>
      rw [opened] at bound
      obtain ⟨listened, listens, departures⟩ := bound
      dsimp only
      constructor
      · simp only [listen, listened]
      · simp only [listen, listened]
        exact ⟨_, rfl, rfl, listens, departures, subsystems, rfl, rfl, rfl⟩

theorem setUp_new (s : Server) (config : Configuration α HostKey.Source) (around : Surroundings)
    (timeouts : Timeouts) (keys : List HostKey) (tree : FileTree)
    (pool : Service.onPool around.pool = .ok .new) :
    match establish s.policy config around timeouts keys with
    | .error cause => s.Fails cause 1 (s.setUp config around timeouts keys tree)
    | .ok address => s.Succeeds config address (s.setUp config around timeouts keys tree) := by
  have stages : establish s.policy config around timeouts keys = (do
      (around.transport (s.setupOf around keys timeouts)).mapError Error.transport
      (Service.openSocket config.bindingAddress
        (around.socket config.bindingAddress)).1.mapError Error.bind) := rfl
  cases transport : around.transport (s.setupOf around keys timeouts) with
  | error cause =>
      obtain ⟨made, released, isOver⟩ := s.abandon_eq Service.new rfl
      rw [transport] at stages
      simp only [stages, setUp, pool, transport]
      exact ⟨rfl, [made], released, rfl, by simpa using isOver⟩
  | ok _ =>
      have listened := s.listen_new config around (s.setupOf around keys timeouts) rfl tree
      simp only [setUp, pool, transport]
      cases opened : (Service.openSocket config.bindingAddress
          (around.socket config.bindingAddress)).1 with
      | error cause =>
          rw [transport, opened] at stages
          rw [opened] at listened
          simp only [stages]
          exact ⟨listened.result, listened.server⟩
      | ok address =>
          rw [transport, opened] at stages
          rw [opened] at listened
          simp only [stages]
          exact ⟨listened.result, listened.server⟩

/-- A bind goes through its stages, and leaves nothing behind when one fails. -/
theorem bind_created {s : Server} (created : s.lifecycle = .created)
    (config : Configuration α HostKey.Source) (around : Surroundings) :
    match outcome s.policy config around with
    | .error cause => s.Fails cause (taken config around) (s.bind config around)
    | .ok address =>
        s.Succeeds config address (s.bind config around) ∧ taken config around = 1 := by
  cases usable : config.usableTimeouts with
  | error cause =>
      have first : prepare config around = .error (.configuration cause) := by
        rw [prepare, usable]
        rfl
      simp only [outcome, taken, first, bind, created, usable]
      exact ⟨rfl, [], by simp, rfl, by simp⟩
  | ok timeouts =>
      cases loaded : (config.keySource.load around.mask around.seed around.tree).result with
      | error cause =>
          have second : prepare config around = .error (.hostKey cause) := by
            simp only [prepare, usable, loaded]
            rfl
          simp only [outcome, taken, second, bind, created, usable, loaded]
          exact ⟨rfl, [], by simp, rfl, by simp⟩
      | ok keys =>
          cases pool : Service.onPool around.pool with
          | error cause =>
              have third : prepare config around = .error (.resources cause) := by
                simp only [prepare, usable, loaded, pool]
                rfl
              simp only [outcome, taken, third, bind, created, usable, loaded, setUp, pool]
              exact ⟨rfl, [], by simp, rfl, by simp⟩
          | ok service =>
              have prepared : prepare config around = .ok (timeouts, keys) := by
                simp only [prepare, usable, loaded, pool]
                rfl
              obtain ⟨_, rfl⟩ := (Service.onPool_eq_ok_iff _ _).mp pool
              have established := s.setUp_new config around timeouts keys
                (config.keySource.load around.mask around.seed around.tree).tree pool
              have whole : outcome s.policy config around =
                  establish s.policy config around timeouts keys := by
                rw [outcome, prepared]
                rfl
              simp only [whole, taken, prepared, bind, created, usable, loaded]
              cases reached : establish s.policy config around timeouts keys with
              | error cause =>
                  rw [reached] at established
                  exact ⟨established.result, established.server⟩
              | ok address =>
                  rw [reached] at established
                  exact ⟨⟨established.result, established.server⟩, rfl⟩

/-- The same server, had it taken and closed some services before. -/
def after (earlier : List Service) (s : Server) : Server :=
  { s with released := earlier ++ s.released }

def Report.after (earlier : List Service) (report : Report) : Report :=
  { report with server := report.server.after earlier }

theorem abandon_after (s : Server) (earlier : List Service) (service : Service) :
    (s.after earlier).abandon service =
      ((s.abandon service).1.after earlier, (s.abandon service).2) := by
  simp only [abandon, after, List.append_assoc]

theorem listen_after (s : Server) (earlier : List Service)
    (config : Configuration α HostKey.Source) (around : Surroundings) (setup : Secure.Setup)
    (service : Service) (tree : FileTree) :
    (s.after earlier).listen config around setup service tree =
      (s.listen config around setup service tree).after earlier := by
  simp only [listen, abandon_after]
  split <;> rfl

theorem setUp_after (s : Server) (earlier : List Service)
    (config : Configuration α HostKey.Source) (around : Surroundings) (timeouts : Timeouts)
    (keys : List HostKey) (tree : FileTree) :
    (s.after earlier).setUp config around timeouts keys tree =
      (s.setUp config around timeouts keys tree).after earlier := by
  have same : (s.after earlier).setupOf around keys timeouts = s.setupOf around keys timeouts := rfl
  simp only [setUp, abandon_after, listen_after, same]
  split
  · rfl
  · split <;> rfl

/-- A bind does not look at what binds before it took and closed. -/
theorem bind_after {s : Server} (created : s.lifecycle = .created) (earlier : List Service)
    (config : Configuration α HostKey.Source) (around : Surroundings) :
    (s.after earlier).bind config around = (s.bind config around).after earlier := by
  have same : (s.after earlier).lifecycle = .created := created
  simp only [bind, created, same, setUp_after]
  split
  · rfl
  · split <;> rfl

/-- All that a call can make of a server, and what the visit that it is about
gets to see. -/
inductive Step (s : Server) : Call α → Server → List Observation → Prop where
  | fails {config : Configuration α HostKey.Source} {around : Surroundings} {cause : Error}
      {made : List Service} (created : s.lifecycle = .created)
      (failed : outcome s.policy config around = .error cause)
      (length : made.length = taken config around) (areOver : ∀ service ∈ made, service.Over) :
      Step s (.bind config around) { s with released := s.released ++ made } []
  | binds {config : Configuration α HostKey.Source} {around : Surroundings} {b : Bound}
      (created : s.lifecycle = .created) (reached : outcome s.policy config around = .ok b.address)
      (one : taken config around = 1) (begins : b.Begins config b.address) :
      Step s (.bind config around) { s with lifecycle := .bound b } []
  | refuses (used : s.lifecycle ≠ .created) (config : Configuration α HostKey.Source)
      (around : Surroundings) : Step s (.bind config around) s []
  | retires (created : s.lifecycle = .created) :
      Step s .close { s with lifecycle := .closed none } []
  | closes {b : Bound} (bound : s.lifecycle = .bound b) {service : Service}
      (isOver : b.traffic.service.closed = false → service.Over)
      (departures : service.departures = b.traffic.service.departures) :
      Step s .close { s with lifecycle := .closed (some { b.traffic with service := service }) } []
  | stays {left : Option Traffic} (closed : s.lifecycle = .closed left) : Step s .close s []
  | waits (quiet : s.traffic? = none) (event : Event) : Step s (.traffic event) s []
  | serves {b : Bound} (bound : s.lifecycle = .bound b) (event : Event) :
      Step s (.traffic event)
        { s with lifecycle := .bound { b with traffic := (b.traffic.step event).1 } }
        (b.traffic.step event).2
  | lingers {left : Traffic} (closed : s.lifecycle = .closed (some left)) (event : Event) :
      Step s (.traffic event) { s with lifecycle := .closed (some (left.step event).1) }
        (left.step event).2

theorem bind_step (s : Server) (config : Configuration α HostKey.Source) (around : Surroundings) :
    s.Step (.bind config around) (s.bind config around).server [] := by
  cases state : s.lifecycle with
  | bound | closed =>
      have same : (s.bind config around).server = s := by
        simp only [Server.bind, state]
      rw [same]
      exact .refuses (by simp [state]) config around
  | created =>
      have stages := bind_created state config around
      split at stages
      · rename_i cause failed
        obtain ⟨made, server, length, areOver⟩ := stages.server
        rw [server]
        exact .fails state failed length areOver
      · rename_i address reached
        obtain ⟨⟨_, b, server, begins⟩, one⟩ := stages
        have found := begins.found
        subst found
        rw [server]
        exact .binds state reached one begins

theorem close_step (s : Server) : s.Step (.close : Call α) s.close.server [] := by
  cases state : s.lifecycle with
  | created =>
      simp only [Server.close, state]
      exact .retires state
  | closed left =>
      simp only [Server.close, state]
      exact .stays state
  | bound b =>
      simp only [Server.close, state]
      refine .closes state ?_ ?_
      · intro isOpen
        apply Service.over_close
        rw [Service.closed_unbind]
        exact isOpen
      · rw [Service.departures_close, Service.departures_unbind]

theorem onEvent_step (s : Server) (event : Event) :
    s.Step (.traffic event : Call α) (s.onEvent event).1 (s.onEvent event).2 := by
  cases state : s.lifecycle with
  | created =>
      simp only [Server.onEvent, state]
      exact .waits (by simp [traffic?, state]) event
  | bound b =>
      simp only [Server.onEvent, state]
      exact .serves state event
  | closed left =>
      cases left with
      | none =>
          simp only [Server.onEvent, state]
          exact .waits (by simp [traffic?, state]) event
      | some left =>
          simp only [Server.onEvent, state]
          exact .lingers state event

theorem call_step (s : Server) (call : Call α) : s.Step call (s.call call).1 (s.call call).2 := by
  cases call with
  | bind config around => exact s.bind_step config around
  | close => exact s.close_step
  | traffic event => exact s.onEvent_step event

theorem Step.policy {s next : Server} {call : Call α} {seen : List Observation}
    (step : s.Step call next seen) : next.policy = s.policy := by
  cases step <;> rfl

theorem policy_run (s : Server) (calls : List (Call α)) : (s.run calls).policy = s.policy := by
  induction calls generalizing s with
  | nil => rfl
  | cons call rest ih => exact (ih _).trans (s.call_step call).policy

/-! ## The services of a server -/

/-- All that was released is over, and so is what is left of a server that is
closed; a server that is bound listens. -/
structure Sound (s : Server) : Prop where
  released : ∀ service ∈ s.released, service.Over
  listens : ∀ b, s.lifecycle = .bound b → b.traffic.Listens b.acceptor b.address
  left : ∀ t, s.lifecycle = .closed (some t) → t.service.Over

theorem sound_new (policy : CipherPolicy) : (new policy).Sound := by
  refine ⟨?_, ?_, ?_⟩
  · intro service member
    cases member
  · intro b bound
    cases bound
  · intro t closed
    cases closed

theorem Bound.Begins.listening {b : Bound} {config : Configuration α HostKey.Source}
    (begins : b.Begins config b.address) : b.traffic.Listens b.acceptor b.address := by
  refine ⟨begins.listens, ?_⟩
  intro visit member
  rw [begins.visits] at member
  cases member

/-- A server that listens on sound traffic. -/
theorem Sound.bound {s : Server} (sound : s.Sound) {b : Bound}
    (listens : b.traffic.Listens b.acceptor b.address) :
    ({ s with lifecycle := .bound b } : Server).Sound := by
  refine ⟨sound.released, ?_, ?_⟩
  · intro other bound
    cases bound
    exact listens
  · intro t closed
    cases closed

theorem Sound.closed {s : Server} (sound : s.Sound) {left : Option Traffic}
    (areOver : ∀ t, left = some t → t.service.Over) :
    ({ s with lifecycle := .closed left } : Server).Sound := by
  refine ⟨sound.released, ?_, ?_⟩
  · intro b bound
    cases bound
  · intro t closed
    cases closed
    exact areOver t rfl

theorem Sound.step {s next : Server} (sound : s.Sound) {call : Call α} {seen : List Observation}
    (step : s.Step call next seen) : next.Sound := by
  cases step with
  | refuses | stays | waits => exact sound
  | @fails config around cause made created failed length areOver =>
      refine ⟨?_, sound.listens, sound.left⟩
      intro service member
      rcases List.mem_append.mp member with before | added
      · exact sound.released service before
      · exact areOver service added
  | binds created reached one begins => exact sound.bound begins.listening
  | retires => exact sound.closed nofun
  | closes bound isOver =>
      apply sound.closed
      intro t left
      cases left
      exact isOver (sound.listens _ bound).service.isOpen
  | @serves b bound event =>
      exact sound.bound ((sound.listens b bound).step (b.traffic.step_step event))
  | @lingers left closed event =>
      have isOver := sound.left left closed
      apply sound.closed
      intro t same
      cases same
      rw [(left.step_step event).service_of_over isOver]
      exact isOver

theorem Sound.run {s : Server} (sound : s.Sound) (calls : List (Call α)) :
    (s.run calls).Sound := by
  induction calls generalizing s with
  | nil => exact sound
  | cons call rest ih => exact ih (sound.step (s.call_step call))

theorem unclosed_eq_nil {services : List Service} (isOver : ∀ service ∈ services, service.Over) :
    services.filter (fun service => !service.closed) = [] := by
  apply List.filter_eq_nil_iff.mpr
  intro service member
  simp [(isOver service member).isClosed]

theorem sockets_eq_nil {services : List Service} (isOver : ∀ service ∈ services, service.Over) :
    services.flatMap Service.sockets = [] := by
  apply List.flatMap_eq_nil_iff.mpr
  intro service member
  exact (isOver service member).sockets_eq

theorem Sound.of_bound {s : Server} (sound : s.Sound) {b : Bound} (bound : s.lifecycle = .bound b) :
    s.unclosed = [b.traffic.service] ∧ s.sockets = [b.address] := by
  have listens := (sound.listens b bound).service
  have services : s.services = s.released ++ [b.traffic.service] := by
    simp [Server.services, traffic?, bound]
  constructor
  · rw [unclosed, services, List.filter_append, unclosed_eq_nil sound.released]
    simp [listens.isOpen]
  · rw [sockets, services, List.flatMap_append, sockets_eq_nil sound.released]
    simp [listens.sockets_eq]

theorem Sound.of_unbound {s : Server} (sound : s.Sound) (unbound : s.bound? = none) :
    s.unclosed = [] ∧ s.sockets = [] := by
  have isOver : ∀ service ∈ s.services, service.Over := by
    intro service member
    rcases List.mem_append.mp member with released | left
    · exact sound.released service released
    · cases state : s.lifecycle with
      | created => simp [traffic?, state] at left
      | bound b => simp [bound?, state] at unbound
      | closed rest =>
          obtain ⟨t, kept, rfl⟩ : ∃ t, rest = some t ∧ t.service = service := by
            simpa [traffic?, state] using left
          exact sound.left t (kept ▸ state)
  exact ⟨unclosed_eq_nil isOver, sockets_eq_nil isOver⟩

/-! ## How a server moves -/

/-- How a call changes what a server is. -/
inductive Moves (policy : CipherPolicy) : Call α → Lifecycle → Lifecycle → Prop where
  | fails {config : Configuration α HostKey.Source} {around : Surroundings} {cause : Error}
      (failed : outcome policy config around = .error cause) :
      Moves policy (.bind config around) .created .created
  | binds {config : Configuration α HostKey.Source} {around : Surroundings} {b : Bound}
      (reached : outcome policy config around = .ok b.address) :
      Moves policy (.bind config around) .created (.bound b)
  | refuses {before : Lifecycle} (used : before ≠ .created)
      (config : Configuration α HostKey.Source) (around : Surroundings) :
      Moves policy (.bind config around) before before
  | closes (before : Lifecycle) (left : Option Traffic) : Moves policy .close before (.closed left)
  | waits (event : Event) : Moves policy (.traffic event) .created .created
  | serves {b next : Bound} (event : Event) (acceptor : next.acceptor = b.acceptor)
      (address : next.address = b.address) : Moves policy (.traffic event) (.bound b) (.bound next)
  | lingers (event : Event) (left later : Option Traffic) :
      Moves policy (.traffic event) (.closed left) (.closed later)

theorem Step.moves {s next : Server} {call : Call α} {seen : List Observation}
    (step : s.Step call next seen) : Moves s.policy call s.lifecycle next.lifecycle := by
  cases step with
  | fails created failed =>
      rw [created]
      exact .fails failed
  | binds created reached =>
      rw [created]
      exact .binds reached
  | refuses used config around => exact .refuses used config around
  | retires | closes => exact .closes _ _
  | stays closed =>
      rw [closed]
      exact .closes _ _
  | waits quiet event =>
      cases state : s.lifecycle with
      | created => exact .waits event
      | bound b => simp [traffic?, state] at quiet
      | closed left => exact .lingers event left left
  | serves bound event =>
      rw [bound]
      exact .serves event rfl rfl
  | lingers closed event =>
      rw [closed]
      exact .lingers event _ _

theorem closed_run {s : Server} {left : Option Traffic} (closed : s.lifecycle = .closed left)
    (calls : List (Call α)) : ∃ later, (s.run calls).lifecycle = .closed later := by
  induction calls generalizing s left with
  | nil => exact ⟨left, closed⟩
  | cons call rest ih =>
      have moves := (s.call_step call).moves
      rw [closed] at moves
      generalize next : (s.call call).1.lifecycle = after at moves
      cases moves with
      | refuses | closes | lingers => exact ih next

/-- How many services a call takes. -/
def takes (s : Server) (call : Call α) : Nat :=
  match s.lifecycle, call with
  | .created, .bind config around => taken config around
  | _, _ => 0

/-- No service is forgotten. -/
theorem Step.length_services {s next : Server} {call : Call α} {seen : List Observation}
    (step : s.Step call next seen) :
    next.services.length = s.services.length + s.takes call := by
  cases step with
  | fails created failed length => simp [takes, created, services, traffic?, length]
  | binds created reached one => simp [takes, created, services, traffic?, one]
  | refuses used =>
      cases state : s.lifecycle with
      | created => exact absurd state used
      | bound | closed => simp [takes, state]
  | retires created => simp [takes, created, services, traffic?]
  | closes bound => simp [takes, bound, services, traffic?]
  | stays closed => simp [takes, closed]
  | waits => simp [takes]
  | serves bound => simp [takes, bound, services, traffic?]
  | lingers closed => simp [takes, closed, services, traffic?]

theorem bind_as_new {s : Server} (created : s.lifecycle = .created)
    (config : Configuration α HostKey.Source) (around : Surroundings) :
    s.bind config around = ((new s.policy).bind config around).after s.services := by
  obtain ⟨policy, lifecycle, released⟩ := s
  dsimp only at created
  subst created
  have services : (⟨policy, .created, released⟩ : Server).services = released :=
    List.append_nil released
  have fresh : (⟨policy, .created, released⟩ : Server) = (new policy).after released := by
    rw [Server.after, new, List.append_nil]
  rw [services, ← bind_after rfl released config around, ← fresh]

/-- What a bind on a server that was only created tells, and what it leaves. -/
theorem report_bind {s : Server} (created : s.lifecycle = .created)
    (config : Configuration α HostKey.Source) (around : Surroundings) :
    let report := s.bind config around
    report.result = (outcome s.policy config around).map (fun _ => ()) ∧
      match outcome s.policy config around with
      | .ok address => report.server.localAddress? = some address
      | .error _ =>
          report.server.lifecycle = .created ∧
            ∃ made, report.server.services = s.services ++ made ∧
              made.length = taken config around ∧
              ∀ service ∈ made, service.closed = true ∧ service.sockets = [] := by
  intro report
  have stages := bind_created created config around
  cases reached : outcome s.policy config around with
  | error cause =>
      rw [reached] at stages
      obtain ⟨failed, made, server, length, isOver⟩ := stages
      refine ⟨failed, ?_, made, ?_, length, ?_⟩
      · simp only [report, server, created]
      · simp [report, server, services, traffic?, created]
      · intro service member
        exact ⟨(isOver service member).isClosed, (isOver service member).sockets_eq⟩
  | ok address =>
      rw [reached] at stages
      obtain ⟨⟨bound, b, server, begins⟩, _⟩ := stages
      refine ⟨bound, ?_⟩
      simp [report, server, localAddress?, bound?, begins.found]

/--
A new server after any calls.  Exactly one of its services is not closed when it
is bound, the one that its acceptor listens on, and none otherwise.  A bound or
closed server refuses a bind before it looks at anything.  A server that was
only created is bound by a bind whose stages all succeed; one that fails closes
what it took, and neither it nor any before it makes a difference to the next.
-/
theorem lifecycle_run (policy : CipherPolicy) (calls : List (Call α)) :
    let s := (new policy).run calls
    (match s.lifecycle with
      | .bound b =>
          s.unclosed = [b.traffic.service] ∧ s.sockets = [b.address] ∧
            b.traffic.service.localAddress? b.acceptor = some b.address ∧
            s.localAddress? = some b.address
      | _ => s.unclosed = [] ∧ s.sockets = [] ∧ s.localAddress? = none) ∧
    (∀ call : Call α,
      Moves policy call s.lifecycle (s.call call).1.lifecycle ∧
        (s.call call).1.services.length = s.services.length + s.takes call) ∧
    (∀ left, s.lifecycle = .closed left →
      ∀ more : List (Call α), ∃ later, (s.run more).lifecycle = .closed later) ∧
    ∀ (config : Configuration α HostKey.Source) around,
      let report := s.bind config around
      match s.lifecycle with
      | .bound b => report = ⟨.error (.alreadyBound b.address), s, around.tree, []⟩
      | .closed _ => report = ⟨.error .closed, s, around.tree, []⟩
      | .created =>
          report = ((new policy).bind config around).after s.services ∧
          report.result = (outcome policy config around).map (fun _ => ()) ∧
          match outcome policy config around with
          | .ok address => report.server.localAddress? = some address
          | .error _ =>
              report.server.lifecycle = .created ∧
                ∃ made, report.server.services = s.services ++ made ∧
                  made.length = taken config around ∧
                  ∀ service ∈ made, service.closed = true ∧ service.sockets = [] := by
  intro s
  have sound : s.Sound := (sound_new policy).run calls
  have kept : s.policy = policy := policy_run _ calls
  refine ⟨?services, ?calls, fun left closed more => closed_run closed more, ?binds⟩
  case services =>
    cases state : s.lifecycle with
    | bound b =>
        obtain ⟨unclosed, sockets⟩ := sound.of_bound state
        exact ⟨unclosed, sockets, (sound.listens b state).service.localAddress?_eq,
          by simp [localAddress?, bound?, state]⟩
    | created | closed =>
        have unbound : s.bound? = none := by simp [bound?, state]
        obtain ⟨unclosed, sockets⟩ := sound.of_unbound unbound
        exact ⟨unclosed, sockets, by simp [localAddress?, unbound]⟩
  case calls =>
    intro call
    have step := s.call_step call
    exact ⟨kept ▸ step.moves, step.length_services⟩
  case binds =>
    intro config around report
    cases state : s.lifecycle with
    | bound b => simp only [report, Server.bind, state]
    | closed left => simp only [report, Server.bind, state]
    | created =>
        have told := report_bind state config around
        have fresh := bind_as_new state config around
        rw [kept] at told fresh
        exact ⟨fresh, told⟩

end NetconfGate.Server
