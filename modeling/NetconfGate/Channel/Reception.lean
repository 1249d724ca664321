import NetconfGate.Channel.Course

/-!
# The reception of connections

What becomes of the connections that the accept loops of a service take, one
event after the other. A loop that runs takes a connection and numbers it; with
its next turn it hands the connection to a task of the group or drops it, and
other events may come in between. The task calls the handler of the acceptor,
unless the group was cancelled before it got a turn. A spawn looks at the group and
enters its task in one step, so that no task comes into a group that drains.

An unbind gives up the binding and tells the loop to stop, and returns when the loop
has ended. One that finds no binding returns at once, also while the loop of another
unbind still runs. An acceptor is asked to bind by one caller at a time.
-/

namespace NetconfGate.Channel

/-- What becomes of a connection. -/
inductive Fate where
  /-- Its loop has numbered it and goes on with it next. -/
  | held (readable : Bool)
  /-- Dropped, as its addresses could not be read. -/
  | unreadable
  /-- Dropped, as the group took no more tasks. -/
  | refused
  | handed (task : Nat)
deriving DecidableEq

structure Connection where
  loop : Nat
  acceptor : Nat
  id : SessionId
  token : Nat
  fate : Fate
deriving DecidableEq

namespace Connection

def isHeld (c : Connection) : Bool :=
  match c.fate with
  | .held _ => true
  | _ => false

def task? (c : Connection) : Option Nat :=
  match c.fate with
  | .handed task => some task
  | _ => none

end Connection

/-- A handler is called with a connection; it goes by its acceptor. -/
structure Call where
  handler : Nat
  connection : Nat
deriving DecidableEq

/-- How a handler comes back. -/
inductive Answer where
  | done
  | failed (error : Error)
  | panicked
deriving DecidableEq

/-- An error is logged and ends the task like any other. -/
def Answer.outcome : Answer → Outcome
  | done => .completed
  | failed _ => .completed
  | panicked => .panicked

namespace Service

/-- A connection is numbered and gets a token of the group. -/
def take (s : Service) : SessionId × Nat × Service :=
  let (id, s) := s.drawId
  let (token, group) := s.group.token
  (id, token, { s with group := group })

/-- What a loop does with a connection that it has numbered. -/
def settle (s : Service) (c : Connection) (readable : Bool) : Fate × Service :=
  if readable then
    match s.group.enrol with
    | .ok (task, group) =>
        (.handed task,
          { s with
            group := group
            arrivals := s.arrivals ++ [⟨c.acceptor, c.id, c.token, some task⟩] })
    | .error _ =>
        (.refused, { s with arrivals := s.arrivals ++ [⟨c.acceptor, c.id, c.token, none⟩] })
  else (.unreadable, s)

/-- An acceptor gives up its binding, and the loop of it is told to stop. -/
def release (s : Service) (acceptor : Nat) : Option Nat × Service :=
  match s.acceptors[acceptor]?.join with
  | none => (none, s)
  | some loop =>
      (some loop,
        { s with
          acceptors := s.acceptors.set acceptor none
          loops := s.loops.modify loop fun loop => { loop with stopped := true } })

/-- Whether the loop with that number runs. -/
def loopRuns (s : Service) (loop : Nat) : Bool :=
  s.loops[loop]?.any fun loop => s.group.isRunning loop.task

end Service

/-- `released` are the loops whose binding was given up, `returned` those of them
whose unbind has returned. `missed` are the numbers of dialled connections whose
addresses could not be read. -/
structure Reception where
  course : Course
  released : List Nat
  returned : List Nat
  connections : List Connection
  calls : List Call
  answers : List (Nat × Answer)
  missed : List SessionId

namespace Reception

def new : Reception := ⟨.new, [], [], [], [], [], []⟩

inductive Event where
  /-- What others do: they bind and dial, spawn tasks, shut the group down and
  close the service. -/
  | aside (event : Course.Event)
  | unbinds (acceptor : Nat)
  /-- The unbind that waits for a loop returns. -/
  | returns (loop : Nat)
  /-- A loop that was told to stop does so. -/
  | stops (loop : Nat)
  | takes (loop : Nat) (readable : Bool)
  | settles (connection : Nat)
  /-- The task of a connection gets its first turn. -/
  | calls (connection : Nat)
  | answers (connection : Nat) (answer : Answer)
  /-- The task of a connection is dropped with the group. -/
  | drops (connection : Nat)
  /-- A dial connects, and the addresses of its connection cannot be read. -/
  | misses (attempt : Nat) (cause : SystemError)

def service (r : Reception) : Service := r.course.service

def withService (r : Reception) (s : Service) : Reception :=
  { r with course := { r.course with service := s } }

/-- The tasks of the loops and of the connections that were handed over. -/
def tasks (r : Reception) : List Nat :=
  r.service.loops.map Loop.task ++ r.connections.filterMap Connection.task?

/-- Whether a loop has a connection to go on with. -/
def holds (r : Reception) (loop : Nat) : Bool :=
  r.connections.any fun c => c.loop == loop && c.isHeld

def hasCalled (r : Reception) (connection : Nat) : Bool :=
  r.calls.any fun call => call.connection == connection

/-- What is told by an event of its own is not told aside. -/
def isAside (r : Reception) : Course.Event → Bool
  | .operation (.ends task _) => !r.tasks.contains task
  | .listens acceptor _ => acceptor < r.service.acceptors.length
  | .unbinds _ => false
  | .accepts _ => false
  | _ => true

def aside (r : Reception) (event : Course.Event) : Reception :=
  if r.isAside event then { r with course := r.course.step event } else r

def unbind (r : Reception) (acceptor : Nat) : Reception :=
  let (loop, s) := r.service.release acceptor
  { r.withService s with released := r.released ++ loop.toList }

def endUnbind (r : Reception) (loop : Nat) : Reception :=
  if r.released.contains loop && !r.service.loopRuns loop then
    { r with returned := r.returned ++ [loop] }
  else r

/-- A loop looks at its signals between two connections. -/
def stop (r : Reception) (loop : Nat) : Reception :=
  match r.service.loops[loop]? with
  | none => r
  | some l =>
      if r.service.isStopping l && !r.holds loop then
        r.withService (r.service.finish l.task .completed)
      else r

/-- Whether a loop waits for a connection; it may take one even if it was told to
stop. -/
def canTake (r : Reception) (loop : Nat) : Bool := r.service.loopRuns loop && !r.holds loop

def take (r : Reception) (loop : Nat) (readable : Bool) : Reception :=
  match r.service.loops[loop]? with
  | none => r
  | some l =>
      if r.canTake loop then
        let (id, token, s) := r.service.take
        { r.withService s with
          connections := r.connections ++ [⟨loop, l.acceptor, id, token, .held readable⟩] }
      else r

def settle (r : Reception) (connection : Nat) : Reception :=
  match r.connections[connection]? with
  | none => r
  | some c =>
      match c.fate with
      | .held readable =>
          let (fate, s) := r.service.settle c readable
          { r.withService s with
            connections := r.connections.set connection { c with fate := fate } }
      | _ => r

/-- The running task of a connection that was handed over. -/
def runningTask? (r : Reception) (connection : Nat) : Option Nat :=
  (r.connections[connection]?.bind Connection.task?).filter r.service.group.isRunning

def call (r : Reception) (connection : Nat) : Reception :=
  match r.connections[connection]? with
  | none => r
  | some c =>
      if (r.runningTask? connection).isSome && !r.hasCalled connection then
        { r with calls := r.calls ++ [⟨c.acceptor, connection⟩] }
      else r

def answer (r : Reception) (connection : Nat) (answer : Answer) : Reception :=
  match r.runningTask? connection with
  | none => r
  | some task =>
      if r.hasCalled connection then
        { r.withService (r.service.finish task answer.outcome) with
          answers := r.answers ++ [(connection, answer)] }
      else r

def drop (r : Reception) (connection : Nat) : Reception :=
  match r.runningTask? connection with
  | none => r
  | some task =>
      if r.service.group.cancelled then r.withService (r.service.finish task .cancelled) else r

def miss (r : Reception) (attempt : Nat) (cause : SystemError) : Reception :=
  match r.course.attempts[attempt]? with
  | none => r
  | some a =>
      match a.stage with
      | .ended _ => r
      | .waiting _ =>
          let (id, s) := r.service.drawId
          { r with
            course :=
              { r.course with
                service := s
                attempts := r.course.attempts.set attempt (a.ends (.error (.system cause))) }
            missed := r.missed ++ [id] }

def step (r : Reception) : Event → Reception
  | .aside event => r.aside event
  | .unbinds acceptor => r.unbind acceptor
  | .returns loop => r.endUnbind loop
  | .stops loop => r.stop loop
  | .takes loop readable => r.take loop readable
  | .settles connection => r.settle connection
  | .calls connection => r.call connection
  | .answers connection answer => r.answer connection answer
  | .drops connection => r.drop connection
  | .misses attempt cause => r.miss attempt cause

def after (r : Reception) (events : List Event) : Reception := events.foldl step r

/-- The numbers that were given out, inbound, outbound and in vain. -/
def ids (r : Reception) : List SessionId :=
  r.connections.map Connection.id ++ (r.service.departures.map Departure.id ++ r.missed)

/-- The numbers that were given out between two states. -/
def given (r later : Reception) : List SessionId :=
  (later.connections.drop r.connections.length).map Connection.id ++
    ((later.service.departures.drop r.service.departures.length).map Departure.id ++
      later.missed.drop r.missed.length)

end Reception

end NetconfGate.Channel
