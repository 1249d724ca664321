import NetconfGate.Bridge.Crossing
import NetconfGate.Server.Dialogue
import NetconfGate.Server.Parting

/-!
# The clients of a server

All that goes on at a bound server, in the order in which it happens: what each
client does and what becomes of its tasks, what the backend does with the
connections that were made for it, and what befalls the server as a whole. What
a client says is heard one thing after the other, and nothing is while a request
waits for its dial. The bytes of each channel are kept in their order, from when
it is opened.

A client sees the answers to what it does, and the reason when its session is
ended. Its backends see the bytes that are delivered, and the end of the link.
-/

namespace NetconfGate.Server

open Channel

/-- What comes from a side. -/
inductive Input where
  | more (bytes : Bytes)
  | finish
deriving DecidableEq

def Input.into : Input → Crossing.Source → Crossing.Source
  | more bytes, s => s.produce bytes
  | finish, s => s.finish

/-- What a pump comes to, when it is gone on with. -/
inductive Move where
  | reads (count : Nat)
  | readFails (cause : SystemError)
  | writes (count : Nat)
  | writeFails (cause : SystemError)
  | flushes
  | flushFails (cause : SystemError)

/-- The answer to a pump, and what is left of its lane. A pump that does not read
leaves its source alone. -/
def Move.answer? (lane : Crossing.Lane) : Move → Pump.Phase → Option (Pump.Event × Crossing.Lane)
  | reads count, .reading =>
      (lane.source.read? count).map fun (chunk, source) => (.read chunk, { lane with source })
  | reads _, _ => none
  | readFails cause, _ => some (.readFailed cause, lane)
  | writes count, _ => some (.wrote count, lane)
  | writeFails cause, _ => some (.writeFailed cause, lane)
  | flushes, .flushing => some (.flushed, { lane with sink := lane.sink.flush })
  | flushes, _ => none
  | flushFails cause, _ => some (.flushFailed cause, lane)

/-- A channel, from one opening of it on. -/
structure Passage where
  channel : Nat
  outbound : Crossing.Lane
  inbound : Crossing.Lane

namespace Passage

def new (channel : Nat) : Passage := ⟨channel, ⟨.new, .new⟩, ⟨.new, .new⟩⟩

def lane (p : Passage) : Relay.Direction → Crossing.Lane
  | .clientToBackend => p.outbound
  | .backendToClient => p.inbound

def setLane (p : Passage) (lane : Crossing.Lane) : Relay.Direction → Passage
  | .clientToBackend => { p with outbound := lane }
  | .backendToClient => { p with inbound := lane }

def feed (p : Passage) (direction : Relay.Direction) (input : Input) : Passage :=
  let lane := p.lane direction
  p.setLane { lane with source := input.into lane.source } direction

end Passage

/-- A request that waits for its dial, if the group let that begin. -/
structure Asked where
  channel : Nat
  name : String
  dialled : Bool
deriving DecidableEq

/-- What there is of a client beside its visit. `current` is the passage that a
channel stands for, and `crossed` has the passage of each link. -/
structure Guest where
  keeper : Secure.Keeper
  asked : Option Asked
  passages : List Passage
  current : Nat → Option Nat
  crossed : List Nat

namespace Guest

def new : Guest := ⟨⟨.settingUp, none⟩, none, [], fun _ => none, []⟩

def openChannel (g : Guest) (channel : Nat) : Guest :=
  { g with
    passages := g.passages ++ [.new channel]
    current := fun other => if other = channel then some g.passages.length else g.current other }

def feed (g : Guest) (place : Option Nat) (direction : Relay.Direction) (input : Input) : Guest :=
  match place with
  | none => g
  | some place =>
      { g with passages := g.passages.modify place fun p => p.feed direction input }

/-- Nothing more comes on any of its channels. -/
def hangUp (g : Guest) : Guest :=
  { g with passages := g.passages.map fun p => p.feed .clientToBackend .finish }

/-- The request is answered. A link that was started takes the passage of its
channel. -/
def land (g : Guest) (channel : Nat) (started : Bool) : Guest :=
  { g with
    asked := none
    crossed := if started then g.crossed ++ [(g.current channel).getD 0] else g.crossed }

/-- What a pump of a link is answered, and what that leaves. -/
def move? (g : Guest) (index : Nat) (direction : Relay.Direction) (move : Move) (relay : Relay) :
    Option (Pump.Event × Guest) := do
  let place ← g.crossed[index]?
  let passage ← g.passages[place]?
  if relay.ended.isSome then none
  else
    let (event, lane) ← move.answer? (passage.lane direction) (relay.pump direction).phase
    let lane := { lane with sink := lane.sink.take (relay.step direction event).2 }
    some (event, { g with passages := g.passages.set place (passage.setLane lane direction) })

end Guest

/-! ## What happens -/

/-- What a client does, and what is done for it. -/
inductive Happening where
  | arrives
  /-- Its connection is gone before it can be taken in. -/
  | slips
  | attempts (accepted : Bool)
  | opens (channel : Nat)
  | gives (channel : Nat) (input : Input)
  | requests (channel : Nat) (name : String)
  /-- The dial of its request ends. -/
  | lands (outcome : Except Channel.Error Unit)
  | closes (channel : Nat)
  | hangsUp
  | polls (f : Secure.Keeper.Findings)
  /-- The backend of a link gives something. -/
  | backs (index : Nat) (input : Input)
  | moves (index : Nat) (direction : Relay.Direction) (move : Move)
  /-- Its own task ends. -/
  | fails (outcome : Outcome)
  /-- The task of a link ends. -/
  | drops (index : Nat) (outcome : Outcome)

/-- What befalls the server. -/
inductive Turn where
  | closes
  /-- The close goes on, if what it waits for has come. -/
  | goesOn
  | loopEnds (outcome : Outcome)
  | poolLost
deriving DecidableEq

/-- `κ` tells the clients from each other. -/
inductive Occurrence (κ : Type) where
  | of (who : κ) (happening : Happening)
  | server (turn : Turn)

/-- It is about this client, or about the server. -/
def Occurrence.concerns {κ : Type} [DecidableEq κ] (who : κ) : Occurrence κ → Bool
  | of other _ => other = who
  | server _ => true

inductive Sight where
  | shown (observation : Observation)
  | told (reason : String)
deriving DecidableEq

/-- A task is not cancelled before that was asked for. -/
def mayEnd (cancelled : Bool) (outcome : Outcome) : Bool := outcome != .cancelled || cancelled

/-- The close goes on from where it is, if it can. -/
def Closedown.goOn (c : Closedown) : Closedown :=
  match c.stage with
  | .joining loop =>
      if c.traffic.service.group.isRunning loop.task then c
      else release c.traffic (c.traffic.service.joined loop)
  | .releasing joined close =>
      let call := (⟨c.traffic.service, close⟩ : CloseCall).resume false
      ⟨{ c.traffic with service := call.service }, .releasing joined call.stage⟩

/-- `stage` is how far the close has come, once there is one. -/
structure Concourse (κ : Type) where
  bound : Bound
  stage : Option Closedown.Stage
  number? : κ → Option Nat
  guests : κ → Guest

namespace Concourse

variable {κ : Type}

/-- A server that begins to listen. -/
def start (b : Bound) : Concourse κ := ⟨b, none, fun _ => none, fun _ => .new⟩

def traffic (c : Concourse κ) : Traffic := c.bound.traffic

def group (c : Concourse κ) : Group := c.traffic.service.group

def setTraffic (c : Concourse κ) (t : Traffic) : Concourse κ :=
  { c with bound := { c.bound with traffic := t } }

/-- The server, as it is left. -/
def server (c : Concourse κ) (s : Server) : Server :=
  match c.stage with
  | none => { s with lifecycle := .bound c.bound }
  | some _ => { s with lifecycle := .closed (some c.traffic) }

def ends (c : Concourse κ) (task : Nat) (outcome : Outcome) : Concourse κ :=
  if mayEnd c.group.cancelled outcome then
    c.setTraffic (c.traffic.onService fun service => service.finish task outcome)
  else c

def event (c : Concourse κ) (event : Event) : Concourse κ × List Sight :=
  let (t, told) := c.traffic.step event
  (c.setTraffic t, told.map .shown)

/-- An event is one of the server as it is. -/
theorem server_event (c : Concourse κ) (s : Server) (event : Event) :
    (c.event event).1.server s = ((c.server s).onEvent event).1 ∧
      (c.event event).2 = ((c.server s).onEvent event).2.map .shown := by
  unfold Concourse.event server setTraffic
  cases c.stage <;> exact ⟨rfl, rfl⟩

/-- The end of a task is what a server can meet with at any time. -/
theorem server_ends (α : Type) (c : Concourse κ) (s : Server) (task : Nat) (outcome : Outcome) :
    (c.ends task outcome).server s =
      if mayEnd c.group.cancelled outcome then (c.server s).meet (.ends task outcome : Incident α)
      else c.server s := by
  unfold Concourse.ends
  split
  · unfold server setTraffic
    cases c.stage <;> rfl
  · rfl

def come (c : Concourse κ) (closing : Closedown) : Concourse κ :=
  { c.setTraffic closing.traffic with stage := some closing.stage }

def turn (c : Concourse κ) : Turn → Concourse κ
  | .closes =>
      match c.stage with
      | none => c.come (.start c.bound)
      | some _ => c
  | .goesOn =>
      match c.stage with
      | none => c
      | some stage => c.come (Closedown.goOn ⟨c.traffic, stage⟩)
  | .loopEnds outcome =>
      match c.traffic.service.loops.head? with
      | none => c
      | some loop => c.ends loop.task outcome
  | .poolLost => c.setTraffic c.traffic.lose

/-- The client may be heard, and no request of it waits. -/
def isFree (c : Concourse κ) (who : κ) : Bool := (c.guests who).asked.isNone

def hears (c : Concourse κ) (who : κ) (number : Nat) : Bool :=
  c.isFree who && (c.traffic.loggedIn? number).isSome

variable [DecidableEq κ]

def setGuest (c : Concourse κ) (who : κ) (guest : Guest) : Concourse κ :=
  { c with guests := fun other => if other = who then guest else c.guests other }

/-- A connection that a loop takes. -/
def arrive (c : Concourse κ) (who : κ) : Concourse κ × List Sight :=
  match c.traffic.service.runningLoops.head? with
  | none => (c, [])
  | some loop =>
      let (next, told) := c.event (.arrives loop)
      let number := some c.traffic.visits.length
      (({ next with number? := fun other => if other = who then number else c.number? other } :
        Concourse κ).setGuest who .new, told)

/-- What is left of a connection that could not be taken in. -/
def slip (c : Concourse κ) : Concourse κ :=
  match c.traffic.service.runningLoops.head? with
  | none => c
  | some _ =>
      c.setTraffic (c.traffic.onService fun service =>
        { service.drawId.2 with group := service.group.token.2 })

/-- A request begins. The dial of one that claims its channel is waited for. -/
def ask (c : Concourse κ) (who : κ) (number channel : Nat) (name : String) (visit : Visit) :
    Concourse κ × List Sight :=
  if visit.session.claims c.traffic.setup.subsystems channel name then
    let dials := c.traffic.dials ++ [⟨number, channel, c.traffic.backend⟩]
    let asked : Asked := ⟨channel, name, !c.group.draining⟩
    ((c.setTraffic { c.traffic with dials }).setGuest who
      { c.guests who with asked := some asked }, [])
  else (c, [.shown (.reply channel false)])

/-- A request is answered. -/
def land (c : Concourse κ) (who : κ) (number : Nat) (asked : Asked)
    (outcome : Except Channel.Error Unit) (visit : Visit) : Concourse κ × List Sight :=
  let outcome := if asked.dialled then outcome else .error .groupShutdown
  let (bridge, t) := c.traffic.land visit.arrival.id outcome
  let started := (t.start? asked.channel bridge).isSome
  let (t, told) := t.answer number asked.channel asked.name bridge visit
  ((c.setTraffic t).setGuest who ((c.guests who).land asked.channel started), told.map .shown)

/-- The keeper of a visit is polled, as long as its task goes on. Once the setup is
through there is a session. -/
def poll (c : Concourse κ) (who : κ) (number task : Nat) (f : Secure.Keeper.Findings)
    (visit : Visit) : Concourse κ × List Sight :=
  let guest := c.guests who
  let f := { f with cancelled := c.group.cancelled, ended := visit.gone }
  let keeper := guest.keeper.poll f
  let c := if guest.keeper.takes? f = some true then (c.event (.identifies number)).1 else c
  let next := c.setGuest who { guest with keeper }
  let told := if keeper.told = guest.keeper.told then [] else (keeper.told.map .told).toList
  if keeper.stage = .finished then
    (next.ends task (if c.group.cancelled then .cancelled else .completed), told)
  else (next, told)

def serve (c : Concourse κ) (who : κ) (number : Nat) (visit : Visit) :
    Happening → Concourse κ × List Sight
  | .arrives | .slips => (c, [])
  | .attempts accepted =>
      if c.isFree who then c.event (.attempts number accepted) else (c, [])
  | .opens channel =>
      if c.hears who number then
        let (next, told) := c.event (.opens number channel)
        (next.setGuest who ((c.guests who).openChannel channel), told)
      else (c, [])
  | .gives channel input =>
      let guest := c.guests who
      if c.hears who number then
        (c.setGuest who (guest.feed (guest.current channel) .clientToBackend input), [])
      else (c, [])
  | .requests channel name =>
      if c.hears who number then c.ask who number channel name visit else (c, [])
  | .lands outcome =>
      match (c.guests who).asked with
      | none => (c, [])
      | some asked => c.land who number asked outcome visit
  | .closes channel =>
      let guest := c.guests who
      if c.hears who number then
        let (next, told) := c.event (.closes number channel)
        (next.setGuest who (guest.feed (guest.current channel) .clientToBackend .finish), told)
      else (c, [])
  | .hangsUp =>
      if c.isFree who then
        ((c.setTraffic (c.traffic.hangUp number)).setGuest who (c.guests who).hangUp, [])
      else (c, [])
  | .polls f =>
      match visit.arrival.task.filter c.group.isRunning with
      | none => (c, [])
      | some task => c.poll who number task f visit
  | .backs index input =>
      let guest := c.guests who
      (c.setGuest who (guest.feed guest.crossed[index]? .backendToClient input), [])
  | .moves index direction move =>
      match c.traffic.link? number index with
      | none => (c, [])
      | some (_, link) =>
          match (c.guests who).move? index direction move link.relay with
          | none => (c, [])
          | some (event, guest) =>
              let (next, told) := c.event (.relays number index direction event)
              (next.setGuest who guest, told)
  | .fails outcome =>
      match visit.arrival.task with
      | none => (c, [])
      | some task => (c.ends task outcome, [])
  | .drops index outcome =>
      match c.traffic.link? number index with
      | none => (c, [])
      | some (_, link) =>
          if mayEnd c.group.cancelled outcome then
            (c.ends link.task outcome, [.shown (.linkOver index)])
          else (c, [])

/-- Who has not been taken in does nothing but come. -/
def step (c : Concourse κ) : Occurrence κ → Concourse κ × List Sight
  | .server turn => (c.turn turn, [])
  | .of who happening =>
      match c.number? who with
      | none =>
          match happening with
          | .arrives => c.arrive who
          | .slips => (c.slip, [])
          | _ => (c, [])
      | some number =>
          match c.traffic.visits[number]? with
          | none => (c, [])
          | some visit => c.serve who number visit happening

def run (c : Concourse κ) (occurrences : List (Occurrence κ)) : Concourse κ :=
  occurrences.foldl (fun c occurrence => (c.step occurrence).1) c

/-- All that one client and its backends get to see. -/
def seen (c : Concourse κ) (who : κ) : List (Occurrence κ) → List Sight
  | [] => []
  | occurrence :: rest =>
      (if occurrence.concerns who then (c.step occurrence).2 else []) ++
        (c.step occurrence).1.seen who rest

end Concourse

/-! ## What there is of one client -/

/-- A link, without the numbers that it was given. -/
structure Tie where
  channel : Nat
  relay : Relay
  state : Bridge.State
  outcome : Option Outcome

/-- A client and its links, without the numbers that they were given. -/
structure Party where
  task : Option (Option Outcome)
  session : Secure.Session
  up : Bool
  gone : Bool
  ties : List Tie
  guest : Guest

def Link.tie (g : Group) (link : Link) : Tie :=
  ⟨link.channel, link.relay, link.bridge.state, g.outcome? link.task⟩

def Visit.party (g : Group) (guest : Guest) (visit : Visit) : Party :=
  ⟨visit.arrival.task.map g.outcome?, visit.session, visit.up, visit.gone,
    visit.links.map (Link.tie g), guest⟩

def Concourse.party? {κ : Type} (c : Concourse κ) (who : κ) : Option Party := do
  let number ← c.number? who
  let visit ← c.traffic.visits[number]?
  some (visit.party c.group (c.guests who))

end NetconfGate.Server
