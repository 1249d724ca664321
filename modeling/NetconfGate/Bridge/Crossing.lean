import NetconfGate.Bridge.Basic

/-!
# Crossings

A bridge at work, with the bytes of both sides. Each direction has a source that
is read and a sink that is written to. What comes from a source, how much a read
or a write takes, and what fails is up to the sides, and so is which pump is
gone on with. Once one of them has ended the sinks are shut down one after the
other, whether that goes well or not; then the bridge is closed and gives its
result. A bridge that is dropped does nothing any more.
-/

namespace NetconfGate

namespace Crossing

/-- All that came from a side, and what of it was not read yet. -/
structure Source where
  produced : Bytes
  waiting : Bytes
  ended : Bool
deriving DecidableEq

/-- All that a side has taken, what of it was flushed, and what had been flushed
when the side was shut down. -/
structure Sink where
  accepted : Bytes
  flushed : Bytes
  shut : Option Bytes
deriving DecidableEq

structure Lane where
  source : Source
  sink : Sink
deriving DecidableEq

namespace Source

def new : Source := ⟨[], [], false⟩

/-- Nothing comes from a source that has ended. -/
def produce (s : Source) (bytes : Bytes) : Source :=
  if s.ended then s
  else { s with produced := s.produced ++ bytes, waiting := s.waiting ++ bytes }

def finish (s : Source) : Source := { s with ended := true }

/-- What a read of at most `count` bytes gives, once there is something to give.
The end of the stream is a read of no bytes. -/
def read? (s : Source) (count : Nat) : Option (Bytes × Source) :=
  if s.waiting.isEmpty then if s.ended then some ([], s) else none
  else if count = 0 then none
  else
    let size := min count bufferSize
    some (s.waiting.take size, { s with waiting := s.waiting.drop size })

end Source

namespace Sink

def new : Sink := ⟨[], [], none⟩

def take (s : Sink) (bytes : Bytes) : Sink := { s with accepted := s.accepted ++ bytes }

@[simp]
theorem take_nil (s : Sink) : s.take [] = s := by
  simp [take]

def flush (s : Sink) : Sink := { s with flushed := s.accepted }

def shutDown (s : Sink) : Sink := { s with shut := some s.flushed }

end Sink

inductive Event where
  | produces (direction : Relay.Direction) (bytes : Bytes)
  | finishes (direction : Relay.Direction)
  | reads (direction : Relay.Direction) (count : Nat)
  | readFails (direction : Relay.Direction) (cause : SystemError)
  | writes (direction : Relay.Direction) (count : Nat)
  | writeFails (direction : Relay.Direction) (cause : SystemError)
  | flushes (direction : Relay.Direction)
  | flushFails (direction : Relay.Direction) (cause : SystemError)
  | shuts (failure : Option SystemError)
  | drops

end Crossing

/-- `unshut` are the sinks that are not shut down yet, in their order. -/
structure Crossing (β : Type) where
  bridge : Bridge β
  relay : Relay
  outbound : Crossing.Lane
  inbound : Crossing.Lane
  unshut : List Relay.Direction
  result : Option (Except Bridge.Error Relay.Summary)
  dropped : Bool

namespace Crossing

variable {β : Type}

def start (b : Bridge β) : Except Bridge.Error (Crossing β) :=
  b.start.map fun (_, bridge) =>
    ⟨bridge, .new, ⟨.new, .new⟩, ⟨.new, .new⟩, Relay.shutdowns, none, false⟩

def lane (c : Crossing β) : Relay.Direction → Lane
  | .clientToBackend => c.outbound
  | .backendToClient => c.inbound

def setLane (c : Crossing β) (lane : Lane) : Relay.Direction → Crossing β
  | .clientToBackend => { c with outbound := lane }
  | .backendToClient => { c with inbound := lane }

@[simp]
theorem lane_setLane (c : Crossing β) (lane : Lane) (direction : Relay.Direction) :
    (c.setLane lane direction).lane direction = lane := by
  cases direction <;> rfl

theorem lane_setLane_of_ne (c : Crossing β) (lane : Lane) {direction other : Relay.Direction}
    (different : other ≠ direction) : (c.setLane lane direction).lane other = c.lane other := by
  cases direction with
  | clientToBackend =>
      cases other with
      | clientToBackend => exact absurd rfl different
      | backendToClient => rfl
  | backendToClient =>
      cases other with
      | clientToBackend => rfl
      | backendToClient => exact absurd rfl different

@[simp]
theorem relay_setLane (c : Crossing β) (lane : Lane) (direction : Relay.Direction) :
    (c.setLane lane direction).relay = c.relay := by
  cases direction <;> rfl

@[simp]
theorem unshut_setLane (c : Crossing β) (lane : Lane) (direction : Relay.Direction) :
    (c.setLane lane direction).unshut = c.unshut := by
  cases direction <;> rfl

@[simp]
theorem result_setLane (c : Crossing β) (lane : Lane) (direction : Relay.Direction) :
    (c.setLane lane direction).result = c.result := by
  cases direction <;> rfl

@[simp]
theorem dropped_setLane (c : Crossing β) (lane : Lane) (direction : Relay.Direction) :
    (c.setLane lane direction).dropped = c.dropped := by
  cases direction <;> rfl

@[simp]
theorem bridge_setLane (c : Crossing β) (lane : Lane) (direction : Relay.Direction) :
    (c.setLane lane direction).bridge = c.bridge := by
  cases direction <;> rfl

theorem setLane_lane (c : Crossing β) (direction : Relay.Direction) :
    c.setLane (c.lane direction) direction = c := by
  cases direction <;> rfl

def setSource (c : Crossing β) (source : Source) (direction : Relay.Direction) : Crossing β :=
  c.setLane { c.lane direction with source := source } direction

def setSink (c : Crossing β) (sink : Sink) (direction : Relay.Direction) : Crossing β :=
  c.setLane { c.lane direction with sink := sink } direction

/-- What a pump is about, as long as it is gone on with. -/
def phase? (c : Crossing β) (direction : Relay.Direction) : Option Pump.Phase :=
  if c.dropped || c.relay.ended.isSome then none else some (c.relay.pump direction).phase

/-- A pump is answered, and its sink takes what it delivers. -/
def answer (c : Crossing β) (direction : Relay.Direction) (event : Pump.Event) : Crossing β :=
  if c.dropped then c
  else
    let (relay, delivered) := c.relay.step direction event
    { c with relay := relay }.setSink ((c.lane direction).sink.take delivered) direction

/-- A pump that is not reading leaves its source alone. -/
def read (c : Crossing β) (direction : Relay.Direction) (count : Nat) : Crossing β :=
  match c.phase? direction, (c.lane direction).source.read? count with
  | some .reading, some (chunk, source) =>
      (c.setSource source direction).answer direction (.read chunk)
  | _, _ => c

def flush (c : Crossing β) (direction : Relay.Direction) : Crossing β :=
  match c.phase? direction with
  | some .flushing => (c.setSink (c.lane direction).sink.flush direction).answer direction .flushed
  | _ => c

/-- With the last sink the bridge is over. -/
def shut (c : Crossing β) : Crossing β :=
  match c.dropped, c.relay.ended, c.unshut with
  | false, some _, direction :: rest =>
      let c := { c with unshut := rest }.setSink (c.lane direction).sink.shutDown direction
      if rest.isEmpty then
        { c with bridge := c.bridge.finish, result := c.relay.result?.map Bridge.outcome }
      else c
  | _, _, _ => c

/-- How a shutdown goes is of no effect. -/
def step (c : Crossing β) : Event → Crossing β
  | .produces direction bytes =>
      c.setSource ((c.lane direction).source.produce bytes) direction
  | .finishes direction => c.setSource (c.lane direction).source.finish direction
  | .reads direction count => c.read direction count
  | .readFails direction cause => c.answer direction (.readFailed cause)
  | .writes direction count => c.answer direction (.wrote count)
  | .writeFails direction cause => c.answer direction (.writeFailed cause)
  | .flushes direction => c.flush direction
  | .flushFails direction cause => c.answer direction (.flushFailed cause)
  | .shuts _ => c.shut
  | .drops => { c with dropped := true }

def run (c : Crossing β) (events : List Event) : Crossing β := events.foldl step c

end Crossing

end NetconfGate
