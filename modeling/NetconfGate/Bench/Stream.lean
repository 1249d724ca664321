import NetconfGate.Bench.Network

/-!
# Steps on a stream

What can be done with one end of a connection, and what it answers. A read that
cannot be answered yet waits; when the wait is given up, what was there is read
all the same.
-/

namespace NetconfGate.Bench

namespace Stream

inductive Step where
  | send (data : Bytes)
  | receive (count : Nat)
  | readEnd
  | finish
  | close
  | reset
  | probe

inductive Answer where
  | done
  | closed
  | timedOut
  | bytes (data : Bytes)
  | ended (data : Bytes)
  | quiet
  | data
  | unknown

/-- Whether more can come from the other end. -/
def isOver (w : Wire) (side : Side) : Bool := (w.incoming side).ended

/-- Without an answer the step has to wait. -/
def onWire (w : Wire) (side : Side) : Step → Option Answer × Wire
  | .send data =>
      if w.refuses side then (some .closed, w) else (some .done, w.write side data)
  | .receive count =>
      if count ≤ (w.incoming side).size then
        let (bytes, w) := w.read side count
        (some (.bytes bytes), w)
      else if isOver w side then (some .closed, (w.readAll side).2)
      else (none, w)
  | .readEnd =>
      if isOver w side then
        let (bytes, w) := w.readAll side
        (some (.ended bytes), w)
      else (none, w)
  | .finish => (some .done, w.finish side)
  | .close => (some .done, w.close side)
  | .reset => (some .done, w.reset side)
  | .probe =>
      (some (match w.readable side with
        | .bytes => .data
        | .nothing => .quiet
        | _ => .closed), w)

def sends : Step → Bool
  | .send _ => true
  | _ => false

/-- A close or a reset lets the name of the stream go. -/
def drops : Step → Bool
  | .close => true
  | .reset => true
  | _ => false

end Stream

namespace Network

/-- The end that goes by a name. -/
def stream? (n : Network) (name : String) : Option End := n.streams.lookup name

def onStream (n : Network) (name : String) (step : Stream.Step) : Option Stream.Answer × Network :=
  match n.stream? name with
  | none => (some .unknown, n)
  | some e =>
      match n.wire? e with
      | none => (some .unknown, n)
      | some wire =>
          let (answer, wire) := Stream.onWire wire e.side step
          let n := n.change e.wire fun _ => wire
          (answer, if Stream.drops step then n.unbind name else n)

/-- The wait for bytes is over: those that came are gone. -/
def giveUp (n : Network) (name : String) : Network :=
  match n.stream? name with
  | none => n
  | some e => n.change e.wire fun w => (w.readAll e.side).2

end Network

end NetconfGate.Bench
