import NetconfGate.Channel.CloseCall
import NetconfGate.Server.Run

/-!
# The close of a bound server

A close stops the accept loop and waits for its end, whatever that end is; then
it closes the service at once and waits for the tasks, which stop when they are
cancelled. Meanwhile the traffic goes on, tasks end or panic, and their pool may
be torn down. Besides its calls a server can meet with the same before.

What a task holds is dropped when the task ends, however it ends: a loop its
socket, the task of a visit the connection that it sets up, and the task of a
link both ends of its relay. The connection of a session that is up is held by the
task that serves it, which no group knows and no close waits for; it runs until
the client leaves or the pool is torn down.

A task is checked for and entered into its group in one step here, so none comes
into a group that drains.
-/

namespace NetconfGate

open Channel

/-- The loop of an acceptor is told to stop, and the acceptor is not bound any
more. -/
def Channel.Service.stopLoop (s : Service) (acceptor : Nat) : Option Loop × Service :=
  match s.acceptors[acceptor]?.join with
  | none => (none, s)
  | some index =>
      let s := { s with acceptors := s.acceptors.set acceptor none }
      match s.loops[index]? with
      | none => (none, s)
      | some loop =>
          (some loop, { s with loops := s.loops.set index { loop with stopped := true } })

def Channel.Service.loseAll (s : Service) : Service := { s with group := s.group.loseAll }

namespace Server

inductive Holding where
  | socket (address : Address)
  | connection (visit : Nat)
  | channel (visit : Nat) (channel : Nat)
  | backend (departure : Departure)
deriving DecidableEq

namespace Traffic

def linkHoldings (t : Traffic) (number : Nat) (link : Link) : List Holding :=
  if t.service.group.isRunning link.task then
    [.channel number link.channel, .backend link.backend]
  else []

/-- Whether the connection of a visit is held, by its task while the session is
set up and then by the task that serves it. -/
def isConnected (t : Traffic) (visit : Visit) : Bool :=
  if visit.up then !visit.gone else t.isServed visit

def visitHoldings (t : Traffic) (number : Nat) (visit : Visit) : List Holding :=
  (if t.isConnected visit then [.connection number] else []) ++
    visit.links.flatMap (t.linkHoldings number)

def holdings (t : Traffic) : List Holding :=
  t.service.sockets.map .socket ++
    (t.visits.zipIdx.flatMap fun numbered => t.visitHoldings numbered.2 numbered.1)

def onService (t : Traffic) (change : Service → Service) : Traffic :=
  { t with service := change t.service }

/-- With the pool goes all that runs on it, what serves the clients too. -/
def lose (t : Traffic) : Traffic :=
  { t with service := t.service.loseAll, visits := t.visits.map Visit.leave }

end Traffic

/-- A task may end at any time, and the pool may be torn down. -/
inductive Incident (α : Type) where
  | call (call : Call α)
  | ends (task : Nat) (outcome : Outcome)
  | poolLost

variable {α : Type}

def onTraffic (s : Server) (change : Traffic → Traffic) : Server :=
  match s.lifecycle with
  | .bound b => { s with lifecycle := .bound { b with traffic := change b.traffic } }
  | .closed (some left) => { s with lifecycle := .closed (some (change left)) }
  | _ => s

def meet (s : Server) : Incident α → Server
  | .call call => (s.call call).1
  | .ends task outcome => s.onTraffic fun t => t.onService fun service => service.finish task outcome
  | .poolLost => s.onTraffic Traffic.lose

def live (s : Server) (incidents : List (Incident α)) : Server := incidents.foldl meet s

inductive Closedown.Stage where
  | joining (loop : Loop)
  /-- With what waiting for the loop gave. -/
  | releasing (joined : Except Channel.Error Unit) (close : CloseCall.Stage)

structure Closedown where
  traffic : Traffic
  stage : Closedown.Stage

namespace Closedown

/-- Closes the service at once. -/
def release (t : Traffic) (joined : Except Channel.Error Unit) : Closedown :=
  let call := CloseCall.start t.service .immediate
  ⟨{ t with service := call.service }, .releasing joined call.stage⟩

def start (b : Bound) : Closedown :=
  let (stopped, service) := b.traffic.service.stopLoop b.acceptor
  let t := { b.traffic with service := service }
  match stopped with
  | some loop => ⟨t, .joining loop⟩
  | none => release t (.ok ())

/-- What the close returns, once it does. -/
def result? (c : Closedown) : Option (Except Error Unit) :=
  match c.stage with
  | .releasing joined .returned => some (joined.mapError fun e => .shutdownInterrupted e.message)
  | _ => none

def onService (c : Closedown) (change : Service → Service) : Closedown :=
  { c with traffic := c.traffic.onService change }

def setGroup (c : Closedown) (group : Group) : Closedown :=
  c.onService fun service => { service with group := group }

/-- The server, when its close has come that far. -/
def server (c : Closedown) (s : Server) : Server := { s with lifecycle := .closed (some c.traffic) }

/-- A cancelled task stops before the close has waited for it too long. -/
inductive Step (c : Closedown) : Closedown → Prop where
  | serves (event : Event) : Step c { c with traffic := (c.traffic.step event).1 }
  | ends (task : Nat) (outcome : Outcome)
      (asked : outcome = .cancelled → c.traffic.service.group.cancelled = true) :
      Step c (c.onService fun service => service.finish task outcome)
  | poolLost : Step c { c with traffic := c.traffic.lose }
  | joins {loop : Loop} (stage : c.stage = .joining loop)
      (ended : c.traffic.service.group.isRunning loop.task = false) :
      Step c (release c.traffic (c.traffic.service.joined loop))
  | resumes {joined : Except Channel.Error Unit} {close : CloseCall.Stage}
      (stage : c.stage = .releasing joined close) :
      Step c
        ⟨{ c.traffic with service := ((⟨c.traffic.service, close⟩ : CloseCall).resume false).service },
          .releasing joined ((⟨c.traffic.service, close⟩ : CloseCall).resume false).stage⟩

/-- Any number of steps. -/
inductive Run : Closedown → Closedown → Prop where
  | refl (c : Closedown) : Run c c
  | tail {first middle last : Closedown} (run : Run first middle) (step : Step middle last) :
      Run first last

end Closedown

end Server

end NetconfGate
