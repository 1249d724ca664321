import NetconfGate.Channel.Acceptor
import NetconfGate.Cipher.Policy
import NetconfGate.HostKey.Store
import NetconfGate.Server.Error
import NetconfGate.Server.Traffic

/-!
# The server

A server is created, binds at most once, and stays closed after it was closed.
To bind it checks the timeouts, loads the host keys, takes a service on its
pool, has the transport set up, and listens, in this order; the first stage that
fails is the error, and a service that was taken for nothing is closed again.
-/

namespace NetconfGate

namespace Server

/-- A listening server. -/
structure Bound where
  acceptor : Nat
  address : Address
  traffic : Traffic

/-- `left` is the traffic that a server had when it was closed, if it listened. -/
inductive Lifecycle where
  | created
  | bound (b : Bound)
  | closed (left : Option Traffic)

/-- What is told while a server binds and closes. -/
inductive Note where
  | key (note : HostKey.Note)
  | configuring (setup : Secure.Setup)
  | configured (setup : Secure.Setup)
  | channel (note : Channel.Note)
  | bound (address backend : Address)
  | closing (address : Address)
  | nothingToRelease

/-- All that lies outside of a server: the files and the mask and the seed for a
new key, the pool, the transport, and what the system answers to each attempt
to open a socket on an address. -/
structure Surroundings where
  tree : FileTree
  mask : Nat
  seed : Bytes
  pool : Channel.Pool
  ciphers : List String
  transport : Secure.Setup → Except Channel.Error Unit
  socket : Address → Nat → Channel.SocketAnswer

end Server

/-- `released` are the services that it took for nothing and has closed, the
oldest first. -/
structure Server where
  policy : CipherPolicy
  lifecycle : Server.Lifecycle
  released : List Channel.Service

namespace Server

variable {α : Type}

def new (policy : CipherPolicy) : Server := ⟨policy, .created, []⟩

def bound? (s : Server) : Option Bound :=
  match s.lifecycle with
  | .bound b => some b
  | _ => none

def localAddress? (s : Server) : Option Address := s.bound?.map Bound.address

/-- The traffic of a server that listens, or what is left of it. -/
def traffic? (s : Server) : Option Traffic :=
  match s.lifecycle with
  | .created => none
  | .bound b => some b.traffic
  | .closed left => left

/-- Every service that it ever took. -/
def services (s : Server) : List Channel.Service :=
  s.released ++ (s.traffic?.map Traffic.service).toList

/-- How a bind or a close went, with the files as they are left. -/
structure Report where
  result : Except Error Unit
  server : Server
  tree : FileTree
  notes : List Note

/-- A service that is of no use is closed, its tasks at once. -/
def abandon (s : Server) (service : Channel.Service) : Server × List Note :=
  let closing := service.close .immediate fun _ => none
  ({ s with released := s.released ++ [closing.service] }, closing.notes.map .channel)

/-- What the transport is given. -/
def setupOf (s : Server) (around : Surroundings) (keys : List HostKey) (timeouts : Timeouts) :
    Secure.Setup :=
  ⟨s.policy.filtered around.ciphers, keys, timeouts, [Bridge.subsystem]⟩

/-- Listens on a service, once the transport is set up. -/
def listen (s : Server) (config : Configuration α HostKey.Source) (around : Surroundings)
    (setup : Secure.Setup) (service : Channel.Service) (tree : FileTree) : Report :=
  let (acceptor, service) := service.acceptor
  let listening := service.bind acceptor config.bindingAddress (around.socket config.bindingAddress)
  let told := listening.notes.map .channel
  match listening.result with
  | .error e =>
      let (s, released) := s.abandon listening.service
      ⟨.error (.bind e), s, tree, told ++ released⟩
  | .ok address =>
      let traffic : Traffic := ⟨listening.service, setup, config.backendAddress, [], []⟩
      ⟨.ok (), { s with lifecycle := .bound ⟨acceptor, address, traffic⟩ }, tree,
        told ++ [.bound address config.backendAddress]⟩

/-- The stages behind the host keys. -/
def setUp (s : Server) (config : Configuration α HostKey.Source) (around : Surroundings)
    (timeouts : Timeouts) (keys : List HostKey) (tree : FileTree) : Report :=
  match Channel.Service.onPool around.pool with
  | .error e => ⟨.error (.resources e), s, tree, []⟩
  | .ok service =>
      let setup := s.setupOf around keys timeouts
      match around.transport setup with
      | .error e =>
          let (s, released) := s.abandon service
          ⟨.error (.transport e), s, tree, .configuring setup :: released⟩
      | .ok _ =>
          let report := s.listen config around setup service tree
          { report with notes := .configuring setup :: .configured setup :: report.notes }

def bind (s : Server) (config : Configuration α HostKey.Source) (around : Surroundings) : Report :=
  match s.lifecycle with
  | .bound b => ⟨.error (.alreadyBound b.address), s, around.tree, []⟩
  | .closed _ => ⟨.error .closed, s, around.tree, []⟩
  | .created =>
      match config.usableTimeouts with
      | .error e => ⟨.error (.configuration e), s, around.tree, []⟩
      | .ok timeouts =>
          let load := config.keySource.load around.mask around.seed around.tree
          let told := load.notes.map .key
          match load.result with
          | .error e => ⟨.error (.hostKey e), s, load.tree, told⟩
          | .ok keys =>
              let report := s.setUp config around timeouts keys load.tree
              { report with notes := told ++ report.notes }

/-- A close, which no file has to do with. -/
structure Closing where
  result : Except Error Unit
  server : Server
  notes : List Note

def close (s : Server) : Closing :=
  match s.lifecycle with
  | .created => ⟨.ok (), { s with lifecycle := .closed none }, [.nothingToRelease]⟩
  | .bound b =>
      let unbound := b.traffic.service.unbind b.acceptor
      let closing := unbound.service.close .immediate fun _ => none
      ⟨unbound.result.mapError fun e => .shutdownInterrupted e.message,
        { s with lifecycle := .closed (some { b.traffic with service := closing.service }) },
        .closing b.address :: (unbound.notes ++ closing.notes).map .channel⟩
  | .closed _ => ⟨.ok (), s, [.nothingToRelease]⟩

/-- A server that is dropped while it listens cancels its tasks and waits for
nothing. -/
def drop (s : Server) : Server :=
  match s.lifecycle with
  | .created => { s with lifecycle := .closed none }
  | .bound b =>
      let service := { b.traffic.service with group := b.traffic.service.group.cancelAll.stopAll }
      { s with lifecycle := .closed (some { b.traffic with service := service }) }
  | .closed _ => s

/-- An event of the traffic. A client that outlives the server is heard still. -/
def onEvent (s : Server) (event : Event) : Server × List Observation :=
  match s.lifecycle with
  | .bound b =>
      let (traffic, told) := b.traffic.step event
      ({ s with lifecycle := .bound { b with traffic := traffic } }, told)
  | .closed (some left) =>
      let (left, told) := left.step event
      ({ s with lifecycle := .closed (some left) }, told)
  | _ => (s, [])

end Server

end NetconfGate
