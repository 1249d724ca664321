import NetconfGate.Channel.Group
import NetconfGate.Duration
import NetconfGate.Session.Id

/-!
# Services

A service owns one group, numbers the connections that are made in it, and runs
accept loops. A loop holds a listening socket for as long as it runs, so the
sockets of a service are the addresses of its running loops. Closing a service
ends its tasks: at once, or after they had five seconds to end by themselves.
Only the first close does anything.
-/

namespace NetconfGate.Channel

/-- An accept loop; `stopped` is the signal of its own. -/
structure Loop where
  acceptor : Nat
  task : Nat
  address : Address
  stopped : Bool
deriving DecidableEq

/-- A connection that a loop accepted. Without a task it was dropped. -/
structure Arrival where
  acceptor : Nat
  id : SessionId
  token : Nat
  task : Option Nat
deriving DecidableEq

/-- A connection that was dialled. -/
structure Departure where
  id : SessionId
  token : Nat
deriving DecidableEq

/-- What is told while a service works. -/
inductive Note where
  | portInUse (port : Nat) (attempt : Nat)
  | boundAtLast (address : Address) (attempt : Nat)
  | listening (address : Address)
  | loopStopped
  | stoppedListening (address : Address)
  | alreadyClosed
  | drained
  | forcing (active : Nat)
  | cancelling (active : Nat)
  | terminated
deriving DecidableEq

/-- `acceptors` gives the loop that each acceptor is bound to, if it is bound. -/
structure Service where
  group : Group
  closed : Bool
  counter : SessionCounter
  loops : List Loop
  acceptors : List (Option Nat)
  arrivals : List Arrival
  departures : List Departure
deriving DecidableEq

inductive CloseMode where
  | graceful
  | immediate
deriving DecidableEq

def closeTimeout : Duration := .ofSeconds 5

namespace Service

def new : Service := ⟨.new, false, .new, [], [], [], []⟩

def onPool (pool : Pool) : Except Error Service :=
  (Group.onPool pool).map fun group => { new with group := group }

theorem onPool_eq_ok_iff (pool : Pool) (s : Service) :
    onPool pool = .ok s ↔ pool = .multiThreaded ∧ s = new := by
  cases pool with
  | multiThreaded =>
      constructor
      · intro made
        cases made
        exact ⟨rfl, rfl⟩
      · rintro ⟨_, rfl⟩
        rfl
  | currentThread => simp [onPool, Group.onPool, Except.map]

/-- A task of its own. -/
def spawn (s : Service) : Except Error (Nat × Service) :=
  s.group.enrol.map fun admitted => (admitted.1, { s with group := admitted.2 })

def finish (s : Service) (task : Nat) (outcome : Outcome) : Service :=
  { s with group := s.group.finish task outcome }

/-- Signals to the group reach the loops too. -/
def isStopping (s : Service) (loop : Loop) : Bool := loop.stopped || s.group.draining

/-- Loops that were told to stop have stopped. -/
def settleLoops (s : Service) : Service :=
  { s with group := s.group.finishAll ((s.loops.filter s.isStopping).map Loop.task) .completed }

def runningLoops (s : Service) : List Loop :=
  s.loops.filter fun loop => s.group.isRunning loop.task

/-- The addresses that are listened on. -/
def sockets (s : Service) : List Address := s.runningLoops.map Loop.address

def drawId (s : Service) : SessionId × Service :=
  let (id, counter) := s.counter.generate
  (id, { s with counter := counter })

/-- A connection that `loop` takes gets a number and a task of its own. -/
def accept (s : Service) (loop : Loop) : Arrival × Service :=
  let (id, s) := s.drawId
  let (token, group) := s.group.token
  match group.enrol with
  | .ok (task, group) =>
      let arrival : Arrival := ⟨loop.acceptor, id, token, some task⟩
      (arrival, { s with group := group, arrivals := s.arrivals ++ [arrival] })
  | .error _ =>
      let arrival : Arrival := ⟨loop.acceptor, id, token, none⟩
      (arrival, { s with group := group, arrivals := s.arrivals ++ [arrival] })

/-- How a close went. -/
structure Closing where
  service : Service
  elapsed : Duration
  notes : List Note

/-- Whether a task ends by itself before the close would force it. -/
def endsInTime (ends : Nat → Option Duration) (task : Nat) : Bool :=
  (ends task).any fun time => time.nanos < closeTimeout.nanos

/-- The time at which the last of the tasks ends by itself. -/
def lastEnd (ends : Nat → Option Duration) (tasks : List Nat) : Duration :=
  ⟨tasks.foldl (fun latest task => max latest (((ends task).map Duration.nanos).getD 0)) 0⟩

/-- Cancels and waits for the end, which comes at once. -/
def force (s : Service) : Service × List Note :=
  ({ s with group := s.group.cancelAll.stopAll },
    (if s.group.cancelled then [] else [.cancelling s.group.active]) ++ [.terminated])

/-- `ends` says when a task would end by itself, counted from now. -/
def close (s : Service) (mode : CloseMode) (ends : Nat → Option Duration) : Closing :=
  if s.closed then ⟨s, .zero, [.alreadyClosed]⟩
  else
    let s := { s with closed := true }
    match mode with
    | .immediate => ⟨s.force.1, .zero, s.force.2⟩
    | .graceful =>
        let unfinished := s.group.running
        let prompt := unfinished.filter (endsInTime ends)
        let s := { s with group := s.group.drain.finishAll prompt .completed }
        if unfinished.all (endsInTime ends) then ⟨s, lastEnd ends unfinished, [.drained]⟩
        else ⟨s.force.1, closeTimeout, .forcing s.group.active :: s.force.2⟩

theorem close_of_closed {s : Service} (closed : s.closed = true) (mode : CloseMode)
    (ends : Nat → Option Duration) : (s.close mode ends).service = s := by
  simp [close, closed]

end Service

end NetconfGate.Channel
