import NetconfGate.Bench.Pipe

/-!
# Wires

A connection in memory: two ends and a pipe from each to the other. A wire may
be a socket, which takes whatever is written and tells a close with unread bytes
as a reset, or a channel of limited room.
-/

namespace NetconfGate.Bench

/-- The two ends of a connection. -/
inductive Side where
  | caller
  | answerer
deriving DecidableEq

def Side.other : Side → Side
  | .caller => .answerer
  | .answerer => .caller

structure Wire where
  /-- What each direction holds at most; a socket has no such limit. -/
  room : Option Nat
  fromCaller : Pipe
  fromAnswerer : Pipe
  callerHeld : Bool
  answererHeld : Bool

namespace Wire

def socket : Wire := ⟨none, .empty, .empty, true, true⟩

def channel (room : Nat) : Wire := ⟨some room, .empty, .empty, true, true⟩

def outgoing (w : Wire) : Side → Pipe
  | .caller => w.fromCaller
  | .answerer => w.fromAnswerer

def incoming (w : Wire) (side : Side) : Pipe := w.outgoing side.other

def setOutgoing (w : Wire) (pipe : Pipe) : Side → Wire
  | .caller => { w with fromCaller := pipe }
  | .answerer => { w with fromAnswerer := pipe }

def setIncoming (w : Wire) (pipe : Pipe) (side : Side) : Wire := w.setOutgoing pipe side.other

def isHeld (w : Wire) : Side → Bool
  | .caller => w.callerHeld
  | .answerer => w.answererHeld

def release (w : Wire) : Side → Wire
  | .caller => { w with callerHeld := false }
  | .answerer => { w with answererHeld := false }

/-- How many of `wanted` bytes can be written now. -/
def space (w : Wire) (side : Side) (wanted : Nat) : Nat :=
  match w.room with
  | none => wanted
  | some room => min wanted (room - (w.outgoing side).size)

/-- Whether a write fails. -/
def refuses (w : Wire) (side : Side) : Bool :=
  (w.outgoing side).ended || (w.incoming side).broken
    || (w.room.isSome && !w.isHeld side.other)

/-- The first write to a socket whose other end is gone is taken and lost. -/
def write (w : Wire) (side : Side) (bytes : Bytes) : Wire :=
  if w.isHeld side.other then w.setOutgoing ((w.outgoing side).push bytes) side
  else w.setOutgoing (w.outgoing side).finish side

def finish (w : Wire) (side : Side) : Wire := w.setOutgoing (w.outgoing side).finish side

/-- A reader that was told of the end already is told nothing new; writes fail
from now on. -/
def reset (w : Wire) (side : Side) : Wire :=
  let outgoing := w.outgoing side
  let w := if outgoing.ended then w else w.setOutgoing outgoing.sever side
  (w.setIncoming (w.incoming side).finish side).release side

/-- Lets an end go. Unread bytes make a reset of it on a socket. -/
def close (w : Wire) (side : Side) : Wire :=
  if !w.isHeld side then w
  else if w.room.isNone && (w.incoming side).hasBytes then w.reset side
  else (w.finish side).release side

/-- What a reader of `side` finds. -/
inductive Readable where
  | bytes
  | finished
  | broken
  | nothing
deriving DecidableEq

def readable (w : Wire) (side : Side) : Readable :=
  let pipe := w.incoming side
  if pipe.hasBytes then .bytes
  else if pipe.broken then .broken
  else if pipe.ended then .finished
  else .nothing

def read (w : Wire) (side : Side) (n : Nat) : Bytes × Wire :=
  let (bytes, pipe) := (w.incoming side).take n
  (bytes, w.setIncoming pipe side)

def readAll (w : Wire) (side : Side) : Bytes × Wire :=
  let (bytes, pipe) := (w.incoming side).takeAll
  (bytes, w.setIncoming pipe side)

end Wire

end NetconfGate.Bench
