import NetconfGate.Channel.Acceptor

/-!
# Bind calls

A bind takes its time: it pauses between two attempts at a socket, and others
use the service meanwhile. A bound acceptor refuses it at once. The call holds
the socket that it has opened until it hands it to an accept loop. If the group
takes no loop any more, the socket goes with the call; if another call for the
acceptor was first, the loop is told to stop as soon as it is started.
-/

namespace NetconfGate.Channel

namespace BindCall

inductive Stage where
  /-- It makes the attempt with this number next. -/
  | trying (number : Nat)
  /-- It pauses after the attempt with this number. -/
  | pausing (number : Nat)
  /-- It has a socket that listens on this address. -/
  | holding (address : Address)
  | bound (address : Address) (loop : Nat)
  /-- Another call was first, and the loop was started in vain. -/
  | late (existing : Address) (loop : Nat)
  | failed (error : Error)
  /-- It has come out of its attempts with none left. -/
  | exhausted
deriving DecidableEq

/-- How a call goes on. -/
inductive Turn where
  | tries (answer : SocketAnswer)
  | wakes
  /-- It asks the group for an accept loop. -/
  | hands
deriving DecidableEq

end BindCall

/-- `answers` is what the system has answered so far. -/
structure BindCall where
  acceptor : Nat
  address : Address
  answers : List SocketAnswer
  notes : List Note
  stage : BindCall.Stage
deriving DecidableEq

/-- A new loop gets the socket, and the acceptor is bound to it, unless it is bound
by now. -/
def Service.takeOver (s : Service) (acceptor : Nat) (address : Address) :
    BindCall.Stage × Service :=
  match s.spawn with
  | .error e => (.failed e, s)
  | .ok (task, next) =>
      match s.localAddress? acceptor with
      | some existing =>
          (.late existing s.loops.length,
            { next with loops := s.loops ++ [⟨acceptor, task, address, true⟩] })
      | none =>
          (.bound address s.loops.length,
            { next with
              loops := s.loops ++ [⟨acceptor, task, address, false⟩]
              acceptors := s.acceptors.set acceptor (some s.loops.length) })

namespace BindCall

def start (s : Service) (acceptor : Nat) (address : Address) : BindCall where
  acceptor := acceptor
  address := address
  answers := []
  notes := []
  stage :=
    match s.localAddress? acceptor with
    | some existing => .failed (.alreadyBound existing)
    | none => .trying 1

/-- What an attempt comes to. -/
def attempt (c : BindCall) (number : Nat) (answer : SocketAnswer) : BindCall :=
  let c := { c with answers := c.answers ++ [answer] }
  let atLast := if number > 1 then [.boundAtLast c.address number] else []
  match answer with
  | .opened address => { c with stage := .holding address, notes := c.notes ++ atLast }
  | .nameless cause => { c with stage := .failed (.system cause), notes := c.notes ++ atLast }
  | .failed cause =>
      if cause.isAddressInUse && number < bindAttempts then
        { c with
          stage := .pausing number
          notes := c.notes ++ [.portInUse c.address.port.toNat number] }
      else { c with stage := .failed (.ofSocket c.address cause) }

/-- The attempt after the pause, if there is one more. -/
def wake (c : BindCall) (number : Nat) : BindCall :=
  { c with stage := if number + 1 ≤ bindAttempts then .trying (number + 1) else .exhausted }

def hand (s : Service) (c : BindCall) (address : Address) : BindCall × Service :=
  let (stage, s) := s.takeOver c.acceptor address
  let notes :=
    match stage with
    | .bound address _ => [.listening address]
    | _ => []
  ({ c with stage := stage, notes := c.notes ++ notes }, s)

/-- A call takes the turns that its stage asks for. -/
def turn (s : Service) (c : BindCall) (turn : Turn) : BindCall × Service :=
  match c.stage, turn with
  | .trying number, .tries answer => (c.attempt number answer, s)
  | .pausing number, .wakes => (c.wake number, s)
  | .holding address, .hands => c.hand s address
  | _, _ => (c, s)

/-- What the caller is told when all attempts are used up. -/
def noneLeft (address : Address) : Error :=
  .bind address.ip.text address.port.toNat
    ("Address in use after " ++ toString bindAttempts ++ " attempts")

def result? (c : BindCall) : Option (Except Error Address) :=
  match c.stage with
  | .trying _ => none
  | .pausing _ => none
  | .holding _ => none
  | .bound address _ => some (.ok address)
  | .late existing _ => some (.error (.alreadyBound existing))
  | .failed e => some (.error e)
  | .exhausted => some (.error (noneLeft c.address))

/-- The address of the socket that the call holds. -/
def socket? (c : BindCall) : Option Address :=
  match c.stage with
  | .holding address => some address
  | _ => none

/-- The loop that was started in vain. -/
def stray? (c : BindCall) : Option Nat :=
  match c.stage with
  | .late _ loop => some loop
  | _ => none

end BindCall

end NetconfGate.Channel
