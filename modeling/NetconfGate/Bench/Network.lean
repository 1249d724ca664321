import NetconfGate.Address
import NetconfGate.Bench.Wire
import NetconfGate.Channel.Acceptor
import NetconfGate.Channel.Dial

/-!
# An in-memory network

Wires, servers to dial, and the ports that were picked so far with the names
that they go by. Addresses of this machine can be listened on once at a time.
-/

namespace NetconfGate.Bench

/-- How a server treats those who dial it. -/
inductive Manner where
  | listens
  | refuses
  /-- Answers no attempt. -/
  | saturated
deriving DecidableEq

structure Backend where
  name : String
  address : Address
  manner : Manner
  /-- Connections that it has not accepted yet. -/
  waiting : List Nat

/-- One end of one wire. -/
structure End where
  wire : Nat
  side : Side
deriving DecidableEq

structure Network where
  wires : List Wire
  backends : List Backend
  streams : List (String × End)
  /-- Names of ports, the latest first. -/
  names : List (Nat × String)
  nextPort : Nat

namespace Network

def occupiedName : String := "occupied"

def firstPort : Nat := 49152

/-- Something else listens on the first port. -/
def new : Network := ⟨[], [], [], [(firstPort, occupiedName)], firstPort + 1⟩

def occupied : Address := .localhost (UInt16.ofNat firstPort)

def name (n : Network) (port : UInt16) (name : String) : Network :=
  { n with names := (port.toNat, name) :: n.names }

def pickPort (n : Network) : UInt16 × Network :=
  (UInt16.ofNat n.nextPort, { n with nextPort := n.nextPort + 1 })

def backend? (n : Network) (name : String) : Option Backend :=
  n.backends.find? fun b => b.name == name

def backendAt? (n : Network) (address : Address) : Option Backend :=
  n.backends.find? fun b => b.address == address

def addBackend (n : Network) (name : String) (manner : Manner) : Network :=
  let (port, n) := n.pickPort
  let added : Backend := ⟨name, .localhost port, manner, []⟩
  (Network.name
    { n with backends := added :: n.backends.filter fun b => b.name != name } port name)

def changeBackend (n : Network) (name : String) (change : Backend → Backend) : Network :=
  { n with backends := n.backends.map fun b => if b.name == name then change b else b }

def listen (n : Network) (name : String) : Network :=
  n.changeBackend name fun b => { b with manner := .listens }

def conflict (a b : Address) : Bool :=
  a.port == b.port && (a.ip == b.ip || a.ip.isUnspecified || b.ip.isUnspecified)

/-- What the system answers to opening a socket while `used` are listened on. -/
def openSocket (n : Network) (used : List Address) (address : Address) : Channel.SocketAnswer :=
  if !(address.ip.isLoopback || address.ip.isUnspecified) then .failed .addressNotAvailable
  else if address.port == 0 then .opened (address.withPort n.pickPort.1)
  else if (used ++ occupied :: (n.backends.filter (·.manner == .listens)).map
      Backend.address).any (conflict address) then .failed .addressInUse
  else .opened address

def addWire (n : Network) (wire : Wire) : Nat × Network :=
  (n.wires.length, { n with wires := n.wires ++ [wire] })

def wire? (n : Network) (e : End) : Option Wire := n.wires[e.wire]?

def change (n : Network) (wire : Nat) (f : Wire → Wire) : Network :=
  { n with wires := n.wires.modify wire f }

def close (n : Network) (e : End) : Network := n.change e.wire fun w => w.close e.side

def bind (n : Network) (name : String) (e : End) : Network :=
  { n with streams := (name, e) :: n.streams.filter fun entry => entry.1 != name }

def unbind (n : Network) (name : String) : Network :=
  { n with streams := n.streams.filter fun entry => entry.1 != name }

/-- What a dial of an address is answered, at once or never. An address where
nothing listens refuses. -/
def answer (n : Network) (used : List Address) (address : Address) : Channel.PeerAnswer :=
  match n.backendAt? address with
  | some ⟨_, _, .listens, _⟩ => .accepts .zero
  | some ⟨_, _, .saturated, _⟩ => .silent
  | some ⟨_, _, .refuses, _⟩ => .refuses .zero .connectionRefused
  | none =>
      if used.any (conflict address) then .accepts .zero else .refuses .zero .connectionRefused

/-- The wire of a dial that a backend took. -/
def reach (n : Network) (address : Address) : Nat × Network :=
  let (wire, n) := n.addWire .socket
  (wire,
    { n with backends := n.backends.map fun b =>
      if b.address == address then { b with waiting := b.waiting ++ [wire] } else b })

/-- The next connection that waits at a backend. -/
def takeWaiting (n : Network) (name : String) : Option (Nat × Network) :=
  match n.backend? name with
  | some ⟨_, _, _, wire :: rest⟩ =>
      some (wire, n.changeBackend name fun b => { b with waiting := rest })
  | _ => none

end Network

end NetconfGate.Bench
