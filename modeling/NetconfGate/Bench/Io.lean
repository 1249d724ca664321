import NetconfGate.Bench.Stream
import NetconfGate.Channel.Acceptor
import NetconfGate.Configuration

/-!
# A bench for services

One service on an in-memory network. Each step is carried out and then all that
it sets off: loops that were told to stop have stopped, handlers have answered
what they got, and what a task held is let go once the task has ended.
-/

namespace NetconfGate.Bench

open Channel

namespace Io

/-- What a handler does with a connection. -/
inductive Handler where
  | hold
  | echo
  | finish
deriving DecidableEq

inductive TaskKind where
  | ready
  | pending
  | gate
deriving DecidableEq

structure Spawned where
  name : String
  task : Nat
  kind : TaskKind

structure Listener where
  name : String
  acceptor : Nat
  handler : Handler
  /-- The address of the latest bind. -/
  address : Option Address

structure Served where
  task : Nat
  stream : End
  handler : Handler

inductive Step where
  | spawn (name : String) (kind : TaskKind)
  | openGate (name : String)
  | completed (name : String)
  | status
  | close (mode : CloseMode)
  | drain
  | cancel
  | await
  | cancelToken
  | cancelDrain
  | acceptor (name : String) (handler : Handler)
  | bind (name : String) (target : String)
  | unbind (name : String)
  | bound (name : String)
  | dial (name : String) (as : String)
  | connector (name : String) (timeout : Option Duration)
  | backend (name : String) (manner : Manner)
  | listen (name : String)
  | connect (name : String) (target : String) (as : String)
  | accept (name : String) (as : String)
  | killPool
  | stream (name : String) (step : Stream.Step)

inductive Answer where
  | done
  | failed (error : Channel.Error)
  | badAddress
  | flag (value : Bool)
  /-- Closed, draining, terminated, active, and whether new tokens of the group
  and of its draining are cancelled. -/
  | status (closed draining terminated : Bool) (active : Nat) (token drainToken : Bool)
  | address (address : Address)
  | bound (isBound : Bool) (address : Option Address)
  | arrived (id : SessionId)
  | refused
  | neverBound
  | noTarget
  | limit (timeout : Duration)
  | connected (ids : List SessionId) (shutdown : Bool)
  | stream (answer : Stream.Answer)
  | timedOut
  | unknown

end Io

structure Io where
  service : Service
  network : Network
  /-- Whether the pool is still there. -/
  pool : Bool
  tasks : List Io.Spawned
  listeners : List Io.Listener
  connectors : List (String × Duration)
  served : List Io.Served

namespace Io

def onPool (pool : Pool) : Except Channel.Error Io :=
  (Service.onPool pool).map fun service => ⟨service, .new, true, [], [], [], []⟩

/-- An echo sends back what came and ends with its peer. -/
def echo (b : Io) (served : Served) : Io :=
  match b.network.wire? served.stream with
  | none => b
  | some wire =>
      let side := served.stream.side
      let isOver := (wire.incoming side).ended
      let (bytes, wire) := wire.readAll side
      let wire := if bytes.isEmpty || wire.refuses side then wire else wire.write side bytes
      let b := { b with network := b.network.change served.stream.wire fun _ => wire }
      if isOver then { b with service := b.service.finish served.task .completed } else b

def serve (b : Io) (served : Served) : Io :=
  if b.service.group.isRunning served.task then
    match served.handler with
    | .hold => b
    | .echo => b.echo served
    | .finish => { b with service := b.service.finish served.task .completed }
  else b

/-- What an ended task held is closed. -/
def release (b : Io) (served : Served) : Io :=
  if b.service.group.isRunning served.task then b
  else { b with network := b.network.close served.stream }

def settle (b : Io) : Io :=
  let service := if b.pool then b.service.settleLoops
    else { b.service with group := b.service.group.loseAll }
  let b := { b with service := service }
  let b := b.served.foldl serve b
  b.served.foldl release b

/-! ## Steps -/

def spawned? (b : Io) (name : String) : Option Spawned := b.tasks.find? fun t => t.name == name

def listener? (b : Io) (name : String) : Option Listener :=
  b.listeners.find? fun l => l.name == name

def isCompleted (b : Io) (task : Nat) : Bool := b.service.group.outcome? task == some .completed

/-- The address that a bind is asked for. -/
inductive Target where
  | address (address : Address)
  | neverBound
  | bad

def target (b : Io) (text : String) : Target :=
  if text = Network.occupiedName then .address Network.occupied
  else
    match b.listener? text with
    | some ⟨_, _, _, some address⟩ => .address address
    | some ⟨_, _, _, none⟩ => .neverBound
    | none =>
        match Address.parse? text with
        | some address => .address address
        | none => .bad

/-- Opening a socket needs a pool. -/
def openSocket (b : Io) (address : Address) : SocketAnswer :=
  if b.pool then b.network.openSocket b.service.sockets address
  else .failed poolGone

def bind (b : Io) (listener : Listener) (address : Address) : Answer × Io :=
  let bound := b.service.bind listener.acceptor address fun _ => b.openSocket address
  let b := { b with service := bound.service }
  match bound.result with
  | .error e => (.failed e, b)
  | .ok found =>
      let network := if address.port == 0 then b.network.pickPort.2 else b.network
      (.address found,
        { b with
          network := network.name found.port listener.name
          listeners := b.listeners.map fun l =>
            if l.name == listener.name then { l with address := some found } else l })

/-- A connection from outside to a listening loop, and the caller's end of it. -/
def arrive (b : Io) (loop : Loop) : Arrival × Nat × Io :=
  let (arrival, service) := b.service.accept loop
  let (wire, network) := b.network.addWire .socket
  let b := { b with service := service, network := network }
  let handler := (b.listeners.find? fun l => l.acceptor == loop.acceptor).map Listener.handler
  match arrival.task, handler with
  | some task, some handler =>
      (arrival, wire, { b with served := b.served ++ [⟨task, ⟨wire, .answerer⟩, handler⟩] })
  | _, _ => (arrival, wire, { b with network := b.network.close ⟨wire, .answerer⟩ })

def loopAt? (b : Io) (address : Address) : Option Loop :=
  b.service.runningLoops.find? fun loop => Network.conflict address loop.address

def dial (b : Io) (listener : Listener) (as : String) : Answer × Io :=
  match listener.address with
  | none => (.neverBound, b)
  | some address =>
      match b.loopAt? address with
      | none => (.refused, b)
      | some loop =>
          let (arrival, wire, b) := b.arrive loop
          (.arrived arrival.id, { b with network := b.network.bind as ⟨wire, .caller⟩ })

/-- The address of a backend or of an acceptor. -/
def destination? (b : Io) (name : String) : Option Address :=
  match b.network.backend? name with
  | some backend => some backend.address
  | none => (b.listener? name).bind Listener.address

def connect (b : Io) (timeout : Duration) (address : Address) (as : String) : Answer × Io :=
  let answer := b.network.answer b.service.sockets address
  let dialled := b.service.dial address timeout answer none
  let b := { b with service := dialled.service }
  match dialled.result with
  | .error e => (.failed e, b)
  | .ok departure =>
      let cancelled := b.service.group.tokenCancelled departure.token
      match b.loopAt? address with
      | some loop =>
          let (arrival, wire, b) := b.arrive loop
          (.connected [departure.id, arrival.id] cancelled,
            { b with network := b.network.bind as ⟨wire, .caller⟩ })
      | none =>
          let (wire, network) := b.network.reach address
          (.connected [departure.id] cancelled,
            { b with network := network.bind as ⟨wire, .caller⟩ })

/-- Only a loop ends by itself while a close waits. -/
def ends (b : Io) (task : Nat) : Option Duration :=
  if b.service.loops.any fun loop => loop.task == task then some .zero else none

def onListener (b : Io) (name : String) (act : Listener → Answer × Io) : Answer × Io :=
  match b.listener? name with
  | some listener => act listener
  | none => (.unknown, b)

def act (b : Io) : Step → Answer × Io
  | .spawn name kind =>
      match b.service.spawn with
      | .error e => (.failed e, b)
      | .ok (task, service) =>
          let service := if b.pool && kind = .ready then service.finish task .completed
            else service
          (.done, { b with service := service, tasks := ⟨name, task, kind⟩ :: b.tasks })
  | .openGate name =>
      match b.spawned? name with
      | none => (.flag false, b)
      | some spawned =>
          let b := if spawned.kind = .gate then
            { b with service := b.service.finish spawned.task .completed } else b
          (.flag (b.isCompleted spawned.task), b)
  | .completed name => (.flag ((b.spawned? name).any fun s => b.isCompleted s.task), b)
  | .status =>
      let group := b.service.group
      (.status b.service.closed group.draining group.isTerminated group.active group.cancelled
        group.draining, b)
  | .close mode => (.done, { b with service := (b.service.close mode b.ends).service })
  | .drain => (.done, { b with service := { b.service with group := b.service.group.drain } })
  | .cancel =>
      (.done, { b with service := { b.service with group := b.service.group.cancelAll.stopAll } })
  | .await => (.flag b.service.group.isTerminated, b)
  | .cancelToken =>
      let (token, group) := b.service.group.token
      (.done, { b with service := { b.service with group := group.cancelToken token } })
  | .cancelDrain =>
      (.done, { b with service := { b.service with group := b.service.group.cancelDrain } })
  | .acceptor name handler =>
      let (acceptor, service) := b.service.acceptor
      (.done, { b with service := service, listeners := ⟨name, acceptor, handler, none⟩ :: b.listeners })
  | .bind name text =>
      b.onListener name fun listener =>
        match b.target text with
        | .address address => b.bind listener address
        | .neverBound => (.neverBound, b)
        | .bad => (.badAddress, b)
  | .unbind name =>
      b.onListener name fun listener =>
        let unbound := b.service.unbind listener.acceptor
        let b := { b with service := unbound.service }
        match unbound.result with
        | .ok _ => (.done, b)
        | .error e => (.failed e, b)
  | .bound name =>
      b.onListener name fun listener =>
        (.bound (b.service.isBound listener.acceptor) (b.service.localAddress? listener.acceptor), b)
  | .dial name as => b.onListener name fun listener => b.dial listener as
  | .connector name timeout =>
      let timeout := timeout.getD defaultConnectTimeout
      (.limit timeout, { b with connectors := (name, timeout) :: b.connectors })
  | .backend name manner => (.done, { b with network := b.network.addBackend name manner })
  | .listen name => (.done, { b with network := b.network.listen name })
  | .connect name target as =>
      match b.connectors.lookup name, b.destination? target with
      | some timeout, some address => b.connect timeout address as
      | none, _ => (.unknown, b)
      | _, none => (.noTarget, b)
  | .accept name as =>
      match b.network.takeWaiting name with
      | some (wire, network) => (.done, { b with network := network.bind as ⟨wire, .answerer⟩ })
      | none => (.timedOut, b)
  | .killPool =>
      (.flag true, { b with pool := false, service := { b.service with group := b.service.group.loseAll } })
  | .stream name step =>
      match b.network.onStream name step with
      | (some answer, network) => (.stream answer, { b with network := network })
      | (none, network) => (.stream .timedOut, { b with network := network.giveUp name })

/-- A step and all that it sets off. -/
def step (b : Io) (s : Step) : Answer × Io :=
  let (answer, b) := b.act s
  (answer, b.settle)

end Io

end NetconfGate.Bench
