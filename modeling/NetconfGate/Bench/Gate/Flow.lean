import NetconfGate.Bench.Gate.Basic
import NetconfGate.Server.Closedown

/-!
# What goes on at a server by itself

Links carry bytes until nothing moves, visits end with their connections, and
what an ended task held is let go. The clock goes on only while a step has to
wait, at most five seconds for one step, and stops at every deadline on its way.
-/

namespace NetconfGate.Bench

open Server (Event Visit)

namespace Gate

def tell (b : Gate) (event : Event) : List Server.Observation × Gate :=
  let (server, told) := b.server.onEvent event
  (told, { b with server := server })

def changeTraffic (b : Gate) (change : Server.Traffic → Server.Traffic) : Gate :=
  match b.server.lifecycle with
  | .bound bound =>
      let traffic := change bound.traffic
      { b with server := { b.server with lifecycle := .bound { bound with traffic := traffic } } }
  | _ => b

/-- Carries one link for at most so many events. -/
def carry (b : Gate) (reach : Reach) : Nat → Gate
  | 0 => b
  | fuel + 1 =>
      match b.traffic?.bind fun t => t.link? reach.visit reach.link with
      | none => b
      | some (_, link) =>
          match b.clientEnd? reach.visit link with
          | none => b
          | some client =>
              match Offer.next? link.relay (.wire client) reach.backend b.network with
              | none => b
              | some offer =>
                  let b := { b with network := offer.network }
                  let (_, b) := b.tell (.relays reach.visit reach.link offer.direction offer.event)
                  if b.isLinked reach.visit reach.link then carry b reach fuel
                  else { b with network := (b.network.retire client).retire reach.backend }

/-- Three events for each byte that is on its way are more than enough. -/
def events (b : Gate) : Nat :=
  3 * b.network.wires.foldl
    (fun total w => total + w.fromCaller.size + w.fromAnswerer.size + bufferSize) bufferSize

/-- How the line may start with which a client names its protocol. -/
def protocolMarks : List String := [Secure.protocolMark, "SSH-1.99"]

/-- Whether that line was sent, and nothing after it. -/
def identifies (sent : Bytes) : Bool :=
  (protocolMarks.any fun mark => sent.take mark.length == Bytes.ofText mark)
    && sent.findIdx? (· == 10) == some (sent.length - 1)

/-- A client that has named its protocol and said nothing since has a session,
which is told nothing until keys are agreed on. -/
def isAgreeing (b : Gate) (client : Client) : Bool :=
  client.speaks = .raw && !b.transport.isPlain &&
    b.network.wires[client.wire]?.any fun wire =>
      let sent := wire.incoming .answerer
      wire.answererHeld && !sent.ended && identifies sent.content

/-- A client that speaks no SSH is served until its connection ends. -/
def notice (b : Gate) (client : Client) : Gate :=
  let linked := b.reaches.any fun r => r.visit == client.visit
  let running := b.reaches.any fun r => r.visit == client.visit && b.isLinked r.visit r.link
  let gone := match b.network.wires[client.wire]? with
    | some wire => (wire.incoming .answerer).ended
    | none => true
  match client.speaks with
  | .ssh => b
  | .raw =>
      if gone then (b.tell (.leaves client.visit)).2
      else if b.isAgreeing client then (b.tell (.identifies client.visit)).2
      else b
  | .plain =>
      if (linked && !running) || (!linked && gone) then (b.tell (.leaves client.visit)).2 else b

/-- Whether a client has named its protocol, as one that speaks it has. -/
def isUp (b : Gate) (client : Client) : Bool := client.speaks = .ssh || b.isAgreeing client

/-- When a client that does nothing has been idle for too long. -/
def idleEnd? (b : Gate) (client : Client) : Option Moment :=
  if b.isUp client then
    b.server.traffic?.bind fun t => client.heard.after? t.setup.timeouts.idle
  else none

def keeper (b : Gate) (client : Client) : Secure.Keeper :=
  let deadline := client.watch.any fun w => !w.authenticated
  ⟨if b.isUp client then .watching deadline else .settingUp, none⟩

/-- What the keeper of a client finds. Its session always has the first turn. -/
def findings (b : Gate) (client : Client) : Secure.Keeper.Findings :=
  let cancelled := b.server.traffic?.any fun t => t.service.group.cancelled
  let gone := b.server.traffic?.any fun t => t.visits[client.visit]?.any Visit.gone
  let late := client.watch.any fun w => !w.authenticated && !b.clock.isBefore w.deadline
  ⟨.session, cancelled, none, .session, gone && !late, late, false, false, false⟩

/-- Whether a session goes on when its task does not: the client was told nothing
of the end, or does not hear it. -/
def lingers (b : Gate) (client : Client) : Bool :=
  let findings := b.findings client
  let told := ((b.keeper client).poll findings).told
  b.pool && b.isUp client && !findings.ended && (told.isNone || b.isAgreeing client)
    && (b.idleEnd? client).all b.clock.isBefore

/-- What an ended visit held is let go. -/
def releaseClient (b : Gate) (client : Client) : Gate :=
  if b.isServed client.visit || b.lingers client then b
  else { b with network := b.network.close ⟨client.wire, .answerer⟩ }

/-- Once a visit is over no more comes from its channels; those at which no
link works are let go. -/
def releaseLane (b : Gate) (lane : Lane) : Gate :=
  if b.isServed lane.visit then b
  else
    let network := b.network.change lane.wire fun w => w.finish .caller
    let linked : Bool := match b.traffic?.bind fun t => t.visits[lane.visit]? with
      | some visit => (List.range visit.links.length).any fun i =>
          b.isLinked lane.visit i && visit.links[i]?.any fun link => link.channel == lane.channel
      | none => false
    { b with network := if linked then network else network.close ⟨lane.wire, .answerer⟩ }

def releaseReach (b : Gate) (reach : Reach) : Gate :=
  if b.isLinked reach.visit reach.link then b
  else { b with network := b.network.close reach.backend }

def settleOnce (b : Gate) : Gate :=
  let b := b.changeTraffic fun t =>
    if b.pool then { t with service := t.service.settleLoops } else t.lose
  let b := b.reaches.foldl (fun b reach => b.carry reach b.events) b
  let b := b.clients.foldl notice b
  let b := b.clients.foldl releaseClient b
  let b := b.lanes.foldl releaseLane b
  b.reaches.foldl releaseReach b

/-- A visit that ends lets its links end, which lets their backends go. -/
def settle (b : Gate) : Gate := b.settleOnce.settleOnce.settleOnce

/-- When the server ends the session of a client that does nothing. -/
def deadline? (b : Gate) (client : Client) : Option Moment :=
  if !b.isServed client.visit && !b.lingers client then none
  else
    let login := client.watch.bind fun w =>
      if w.authenticated || !b.isServed client.visit then none else some w.deadline
    match login, b.idleEnd? client with
    | some a, some c => some (if c.isBefore a then c else a)
    | some a, none => some a
    | none, other => other

/-- Ends the sessions whose time is over. -/
def expire (b : Gate) : Gate :=
  b.clients.foldl (fun b client =>
    match b.deadline? client with
    | some deadline => if b.clock.isBefore deadline then b else (b.tell (.leaves client.visit)).2
    | none => b) b

/-- The next deadline that is not later than `last`. -/
def nextDeadline? (b : Gate) (last : Moment) : Option Moment :=
  (b.clients.filterMap b.deadline?).foldl (fun next d =>
    if last.isBefore d then next
    else match next with
      | some n => some (if d.isBefore n then d else n)
      | none => some d) none

/-- The time goes on to `last`, from deadline to deadline. -/
def passTo (b : Gate) (last : Moment) : Nat → Gate
  | 0 => { b with clock := last }
  | fuel + 1 =>
      match b.nextDeadline? last with
      | none => { b with clock := last }
      | some deadline => passTo (settle (expire { b with clock := deadline })) last fuel

def pass (b : Gate) (d : Duration) : Gate := b.passTo (b.clock.advance d) (2 * b.clients.length + 1)

/-- Tries until it gets an answer or the patience is over. -/
def await (b : Gate) (attempt : Gate → Option Answer × Gate) (last : Moment) :
    Nat → Option Answer × Gate
  | 0 => (none, { b with clock := last })
  | fuel + 1 =>
      match attempt b with
      | (some answer, b) => (some answer, b)
      | (none, b) =>
          match b.nextDeadline? last with
          | none => (none, { b with clock := last })
          | some deadline => await (settle (expire { b with clock := deadline })) attempt last fuel

def wait (b : Gate) (attempt : Gate → Option Answer × Gate) : Option Answer × Gate :=
  b.await attempt (b.clock.advance patience) (2 * b.clients.length + 2)

end Gate

end NetconfGate.Bench
