import NetconfGate.Bridge.Basic
import NetconfGate.Channel.Dial
import NetconfGate.Secure.Session
import NetconfGate.Secure.Setup

/-!
# Traffic of a listening server

The visits of clients over one service. A visit logs in, opens channels, and
asks for subsystems on them; each request that a dial is made for leads to at
most one link, a bridge at work in a task of its own. What one visit does shows
in no other visit. The dials are kept in order.

The task of a visit sets its session up, which takes until the client has named
its protocol. A session that is up is served by a task of its own, which no group
knows: it is heard until it leaves, even when the task of the visit is gone.
-/

namespace NetconfGate.Server

open Channel

/-- A bridge at work. -/
structure Link where
  channel : Nat
  backend : Departure
  bridge : Bridge Departure
  relay : Relay
  task : Nat

/-- `up` is whether its session was set up. -/
structure Visit where
  arrival : Arrival
  session : Secure.Session
  links : List Link
  up : Bool
  gone : Bool

namespace Visit

def new (arrival : Arrival) : Visit := ⟨arrival, .new, [], false, false⟩

@[simp] theorem arrival_new (arrival : Arrival) : (new arrival).arrival = arrival := rfl

@[simp] theorem links_new (arrival : Arrival) : (new arrival).links = [] := rfl

def leave (visit : Visit) : Visit := { visit with gone := true }

@[simp] theorem arrival_leave (visit : Visit) : visit.leave.arrival = visit.arrival := rfl

@[simp] theorem up_leave (visit : Visit) : visit.leave.up = visit.up := rfl

@[simp] theorem gone_leave (visit : Visit) : visit.leave.gone = true := rfl

end Visit

/-- A dial that was made: for which visit and channel, and where to. -/
structure DialMade where
  visit : Nat
  channel : Nat
  address : Address
deriving DecidableEq

structure Traffic where
  service : Service
  setup : Secure.Setup
  backend : Address
  visits : List Visit
  dials : List DialMade

/-- What happens, always to one visit or to one listening loop. A request comes
with what its dial would meet: the peer's answer, and when the group is cancelled
under the dial, if it is. -/
inductive Event where
  | arrives (loop : Loop)
  /-- The client has named its protocol, and its session is up. -/
  | identifies (visit : Nat)
  | attempts (visit : Nat) (accepted : Bool)
  | opens (visit : Nat) (channel : Nat)
  | requests (visit : Nat) (channel : Nat) (name : String) (answer : PeerAnswer)
      (shutdown : Option Duration)
  | closes (visit : Nat) (channel : Nat)
  | relays (visit : Nat) (link : Nat) (direction : Relay.Direction) (event : Pump.Event)
  | leaves (visit : Nat)

/-- What one visit gets to see. -/
inductive Observation where
  | dropped
  | login (accepted : Bool)
  | opened (channel : Nat)
  | reply (channel : Nat) (success : Bool)
  | channelClosed (channel : Nat)
  | delivered (link : Nat) (direction : Relay.Direction) (bytes : Bytes)
  | linkOver (link : Nat)
deriving DecidableEq

namespace Traffic

def isServed (t : Traffic) (visit : Visit) : Bool :=
  visit.arrival.task.any t.service.group.isRunning

/-- The visit of a number, while it is served. -/
def served? (t : Traffic) (number : Nat) : Option Visit :=
  t.visits[number]?.filter t.isServed

/-- The visit of a number, from when it was taken in until it leaves. -/
def present? (t : Traffic) (number : Nat) : Option Visit :=
  t.visits[number]?.filter fun visit => visit.arrival.task.isSome && !visit.gone

/-- The visit of a number, from when its session is up until it leaves. -/
def heard? (t : Traffic) (number : Nat) : Option Visit :=
  t.visits[number]?.filter fun visit => visit.up && !visit.gone

/-- Only those who have logged in open channels and ask for subsystems. -/
def loggedIn? (t : Traffic) (number : Nat) : Option Visit :=
  (t.heard? number).filter fun visit => visit.session.authenticated

def setVisit (t : Traffic) (number : Nat) (visit : Visit) : Traffic :=
  { t with visits := t.visits.set number visit }

def setSession (t : Traffic) (number : Nat) (visit : Visit) (session : Secure.Session) : Traffic :=
  t.setVisit number { visit with session := session }

/-- A visit that is over ends its task. -/
def leave (t : Traffic) (number : Nat) (visit : Visit) : Traffic :=
  let service := match visit.arrival.task with
    | some task => t.service.finish task .completed
    | none => t.service
  Traffic.setVisit { t with service := service } number visit.leave

/-- The dial for a claimed channel. -/
def dial (t : Traffic) (number channel : Nat) (visit : Visit) (answer : PeerAnswer)
    (shutdown : Option Duration) : Except Bridge.Error (Bridge Departure) × Traffic :=
  let dialled := t.service.dial t.backend t.setup.timeouts.connect answer shutdown
  (Bridge.create visit.arrival.id t.backend dialled.result,
    { t with
      service := dialled.service
      dials := t.dials ++ [⟨number, channel, t.backend⟩] })

/-- Starts a bridge that is connected, if the group takes it. -/
def start? (t : Traffic) (channel : Nat) : Except Bridge.Error (Bridge Departure) →
    Option (Link × Service)
  | .error _ => none
  | .ok bridge =>
      match bridge.start, t.service.spawn with
      | .ok (backend, bridge), .ok (task, service) =>
          some (⟨channel, backend, bridge, .new, task⟩, service)
      | _, _ => none

def request (t : Traffic) (number channel : Nat) (name : String) (answer : PeerAnswer)
    (shutdown : Option Duration) (visit : Visit) : Traffic × List Observation :=
  if visit.session.claims t.setup.subsystems channel name then
    let (bridge, t) := t.dial number channel visit answer shutdown
    let started := t.start? channel bridge
    let response := visit.session.request t.setup.subsystems channel name bridge started.isSome
    let told := .reply channel response.success ::
      (if response.closed then [.channelClosed channel] else [])
    match started with
    | some (link, service) =>
        (Traffic.setVisit { t with service := service } number
          { visit with session := response.session, links := visit.links ++ [link] }, told)
    | none => (t.setSession number visit response.session, told)
  else (t, [.reply channel false])

/-- One event of a relay, while its task goes on. A relay that is over ends its
task, and its channel is closed. -/
def relay (t : Traffic) (number index : Nat) (direction : Relay.Direction) (event : Pump.Event)
    (visit : Visit) (link : Link) : Traffic × List Observation :=
  let (relay, bytes) := link.relay.step direction event
  let told := if bytes.isEmpty then [] else [.delivered index direction bytes]
  let isOver := relay.ended.isSome
  let bridge := if isOver then link.bridge.finish else link.bridge
  let visit := { visit with links := visit.links.set index { link with relay := relay, bridge := bridge } }
  if isOver then
    (Traffic.setVisit { t with service := t.service.finish link.task .completed } number visit,
      told ++ [.linkOver index, .channelClosed link.channel])
  else (t.setVisit number visit, told)

/-- The link of a visit, while its task goes on. -/
def link? (t : Traffic) (number index : Nat) : Option (Visit × Link) := do
  let visit ← t.visits[number]?
  let link ← visit.links[index]?
  if t.service.group.isRunning link.task then some (visit, link) else none

def step (t : Traffic) : Event → Traffic × List Observation
  | .arrives loop =>
      if t.service.group.isRunning loop.task then
        let (arrival, service) := t.service.accept loop
        ({ t with service := service, visits := t.visits ++ [.new arrival] },
          if arrival.task.isNone then [.dropped] else [])
      else (t, [])
  | .identifies number =>
      match t.served? number with
      | none => (t, [])
      | some visit => (t.setVisit number { visit with up := true }, [])
  | .attempts number accepted =>
      match t.heard? number with
      | none => (t, [])
      | some visit => (t.setSession number visit (visit.session.attempt accepted), [.login accepted])
  | .opens number channel =>
      match t.loggedIn? number with
      | none => (t, [])
      | some visit =>
          (t.setSession number visit (visit.session.openChannel channel), [.opened channel])
  | .requests number channel name answer shutdown =>
      match t.loggedIn? number with
      | none => (t, [])
      | some visit => t.request number channel name answer shutdown visit
  | .closes number channel =>
      match t.loggedIn? number with
      | none => (t, [])
      | some visit => (t.setSession number visit (visit.session.closeChannel channel), [])
  | .relays number index direction event =>
      match t.link? number index with
      | none => (t, [])
      | some (visit, link) => t.relay number index direction event visit link
  | .leaves number =>
      match t.present? number with
      | none => (t, [])
      | some visit => (t.leave number visit, [])

end Traffic

end NetconfGate.Server
