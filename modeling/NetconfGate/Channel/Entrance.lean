import NetconfGate.Channel.BindCall
import NetconfGate.Channel.Reception

/-!
# The entrance of a service

Where connections can come in, and what else goes on in a service meanwhile. A
bind is a call that takes turns with all others, also with calls for the same
acceptor. A socket listens as long as something holds it: the call that has
opened it, or the loop that it was handed to. The system lets nobody open a
socket on an address that is listened on. An unbind that finds no binding returns
at once, also while the loop of another unbind still runs and its socket listens.
-/

namespace NetconfGate.Channel

/-- `calls` are the bind calls in the order in which they began. -/
structure Entrance where
  reception : Reception
  calls : List BindCall

namespace Entrance

def new : Entrance := ⟨.new, []⟩

inductive Event where
  /-- All but the binds. -/
  | aside (event : Reception.Event)
  | begins (acceptor : Nat) (address : Address)
  | goesOn (call : Nat) (turn : BindCall.Turn)

def service (e : Entrance) : Service := e.reception.service

/-- The addresses that are listened on. -/
def sockets (e : Entrance) : List Address :=
  e.calls.filterMap BindCall.socket? ++ e.service.sockets

/-- Binds are told by events of their own. -/
def isAside : Reception.Event → Bool
  | .aside (.listens _ _) => false
  | _ => true

def aside (e : Entrance) (event : Reception.Event) : Entrance :=
  if isAside event then { e with reception := e.reception.step event } else e

def begin (e : Entrance) (acceptor : Nat) (address : Address) : Entrance :=
  if acceptor < e.service.acceptors.length then
    { e with calls := e.calls ++ [.start e.service acceptor address] }
  else e

/-- Whether the system may answer so. -/
def admits (e : Entrance) : BindCall.Turn → Bool
  | .tries (.opened address) => !e.sockets.contains address
  | _ => true

/-- A loop that was started in vain is told to stop like one that is given up. -/
def goOn (e : Entrance) (call : Nat) (turn : BindCall.Turn) : Entrance :=
  match e.calls[call]? with
  | none => e
  | some c =>
      if c.result?.isNone && e.admits turn then
        let (c, s) := c.turn e.service turn
        { reception :=
            { e.reception.withService s with
              released := e.reception.released ++ c.stray?.toList }
          calls := e.calls.set call c }
      else e

def step (e : Entrance) : Event → Entrance
  | .aside event => e.aside event
  | .begins acceptor address => e.begin acceptor address
  | .goesOn call turn => e.goOn call turn

def after (e : Entrance) (events : List Event) : Entrance := events.foldl step e

/-- Whether the loops that were told to stop have ended. -/
def isSettled (e : Entrance) : Bool :=
  e.service.loops.all fun loop => !(e.service.isStopping loop && e.service.group.isRunning loop.task)

/-- What the unbind comes to that waits for a loop. -/
def unbound? (e : Entrance) (loop : Nat) : Option (Except Error Unit) :=
  if e.reception.returned.contains loop then e.service.loops[loop]?.map e.service.joined else none

/-- What the bind call with that number comes to. -/
def bound? (e : Entrance) (call : Nat) : Option (Except Error Address) :=
  e.calls[call]?.bind BindCall.result?

end Entrance

end NetconfGate.Channel
