import NetconfGate.Bench.Stream
import NetconfGate.Relay.Basic

/-!
# Carrying a relay

A relay at work between a client's side and an end of a wire. The client's side
is an end of a wire too, or a script that says what each read and write will
give. A carrier moves bytes until neither pump can go on; when the relay is
over both sides are shut down and let go.
-/

namespace NetconfGate.Bench

/-- What one read of a script gives. -/
inductive Script.Read where
  | data (bytes : Bytes)
  | pending
  | fails (cause : SystemError)

/-- What one write to a script does. -/
inductive Script.Write where
  | accepts (count : Nat)
  | fails (cause : SystemError)

/-- A write that was interrupted is made again. -/
def Script.Write.isAgain : Script.Write → Bool
  | .accepts _ => false
  | .fails cause => cause.isInterrupted

/-- After its last read a script gives nothing more; after its last write it
takes everything. -/
structure Script where
  reads : List Script.Read
  writes : List Script.Write
  flushError : Option SystemError
  written : List Bytes
  shutdowns : Nat

/-- The client's side of a relay. -/
inductive Party where
  | wire (e : End)
  | script (s : Script)

namespace Script

def read (s : Script) : Option (Pump.Event × Script) :=
  match s.reads with
  | [] => none
  | .pending :: _ => none
  | .fails cause :: rest => some (.readFailed cause, { s with reads := rest })
  | .data bytes :: rest =>
      let left := bytes.drop bufferSize
      some (.read (bytes.take bufferSize),
        { s with reads := if left.isEmpty then rest else .data left :: rest })

def write (s : Script) (rest : Bytes) : Pump.Event × Script :=
  match s.writes.dropWhile Write.isAgain with
  | [] => (.wrote rest.length, { s with writes := [], written := s.written ++ [rest] })
  | .accepts count :: more =>
      (.wrote (min count rest.length),
        { s with writes := more, written := s.written ++ [rest.take count] })
  | .fails cause :: more => (.writeFailed cause, { s with writes := more })

def flush (s : Script) : Pump.Event :=
  match s.flushError with
  | none => .flushed
  | some cause => .flushFailed cause

def shutdown (s : Script) : Script := { s with shutdowns := s.shutdowns + 1 }

/-- How many reads and writes it can answer at most. -/
def length (s : Script) : Nat :=
  s.writes.length + s.reads.foldl (fun total item => match item with
    | .data bytes => total + bytes.length + 1
    | _ => total + 1) 0

end Script

namespace Network

/-- What a read at an end finds, once there is something to be found. -/
def offerRead (n : Network) (e : End) : Option (Pump.Event × Network) :=
  match n.wire? e with
  | none => none
  | some wire =>
      match wire.readable e.side with
      | .nothing => none
      | .finished => some (.read [], n)
      | .broken => some (.readFailed .connectionReset, n)
      | .bytes =>
          let (bytes, wire) := wire.read e.side bufferSize
          some (.read bytes, n.change e.wire fun _ => wire)

/-- A write of `rest` at an end, once there is room for some of it. -/
def offerWrite (n : Network) (e : End) (rest : Bytes) : Option (Pump.Event × Network) :=
  match n.wire? e with
  | none => none
  | some wire =>
      if wire.refuses e.side then
        some (.writeFailed (if wire.room.isSome then .plain .brokenPipe else .brokenPipe), n)
      else
        let count := wire.space e.side rest.length
        if count = 0 then none
        else some (.wrote count, n.change e.wire fun w => w.write e.side (rest.take count))

/-- Shuts down and lets go of an end. -/
def retire (n : Network) (e : End) : Network :=
  n.change e.wire fun w => (w.finish e.side).close e.side

end Network

/-- The next thing that a relay is answered from outside. -/
structure Offer where
  direction : Relay.Direction
  event : Pump.Event
  client : Party
  network : Network

namespace Offer

/-- From the client to the backend. -/
def outward (pump : Pump) (client : Party) (backend : End) (n : Network) : Option Offer :=
  match pump.phase, client with
  | .reading, .wire e =>
      (n.offerRead e).map fun (event, n) => ⟨.clientToBackend, event, client, n⟩
  | .reading, .script s => s.read.map fun (event, s) => ⟨.clientToBackend, event, .script s, n⟩
  | .writing rest, _ =>
      (n.offerWrite backend rest).map fun (event, n) => ⟨.clientToBackend, event, client, n⟩
  | .flushing, _ => some ⟨.clientToBackend, .flushed, client, n⟩
  | .ended _, _ => none

/-- From the backend to the client. -/
def inward (pump : Pump) (client : Party) (backend : End) (n : Network) : Option Offer :=
  match pump.phase, client with
  | .reading, _ =>
      (n.offerRead backend).map fun (event, n) => ⟨.backendToClient, event, client, n⟩
  | .writing rest, .wire e =>
      (n.offerWrite e rest).map fun (event, n) => ⟨.backendToClient, event, client, n⟩
  | .writing rest, .script s =>
      let (event, s) := s.write rest
      some ⟨.backendToClient, event, .script s, n⟩
  | .flushing, .wire _ => some ⟨.backendToClient, .flushed, client, n⟩
  | .flushing, .script s => some ⟨.backendToClient, s.flush, client, n⟩
  | .ended _, _ => none

def next? (relay : Relay) (client : Party) (backend : End) (n : Network) : Option Offer :=
  if relay.ended.isSome then none
  else
    match outward relay.outbound client backend n with
    | some offer => some offer
    | none => inward relay.inbound client backend n

end Offer

structure Carrier where
  relay : Relay
  client : Party
  backend : End

namespace Carrier

def new (client : Party) (backend : End) : Carrier := ⟨.new, client, backend⟩

/-- The sink of a direction is shut down and its side let go. -/
def retireSink (moved : Carrier × Network) (direction : Relay.Direction) : Carrier × Network :=
  let (c, n) := moved
  match direction, c.client with
  | .clientToBackend, _ => (c, n.retire c.backend)
  | .backendToClient, .wire e => (c, n.retire e)
  | .backendToClient, .script s => ({ c with client := .script s.shutdown }, n)

/-- Both sides are shut down and let go. -/
def retire (c : Carrier) (n : Network) : Carrier × Network :=
  Relay.shutdowns.foldl retireSink (c, n)

/-- Moves bytes for at most so many events. -/
def run : Nat → Carrier → Network → Carrier × Network
  | 0, c, n => (c, n)
  | fuel + 1, c, n =>
      match Offer.next? c.relay c.client c.backend n with
      | none => (c, n)
      | some offer =>
          let relay := (c.relay.step offer.direction offer.event).1
          let c := { c with relay := relay, client := offer.client }
          if relay.ended.isSome then c.retire offer.network else run fuel c offer.network

def unread (n : Network) (e : End) : Nat :=
  match n.wire? e with
  | some wire => (wire.incoming e.side).size
  | none => 0

/-- Each byte is read once and delivered once, and each chunk of them is flushed
once; the rest are ends and failures. -/
def events (c : Carrier) (n : Network) : Nat :=
  let held := c.relay.outbound.held.length + c.relay.inbound.held.length
  let client := match c.client with
    | .wire e => unread n e
    | .script s => s.length
  3 * (held + client + unread n c.backend) + 16

/-- Moves bytes until nothing moves. -/
def settle (c : Carrier) (n : Network) : Carrier × Network :=
  if c.relay.ended.isSome then (c, n) else run (c.events n) c n

end Carrier

end NetconfGate.Bench
