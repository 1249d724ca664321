import NetconfGate.Bench.Gate.Flow

/-!
# Steps on a server

What can be done to the server, by its clients, and at its backends. Each step
is carried out together with all that it sets off.
-/

namespace NetconfGate.Bench

namespace Gate

def onServer (b : Gate) (act : Gate → Answer × Gate) : Answer × Gate :=
  if b.isDropped then (.dropped, b) else act b

/-- Opening a socket needs a pool. -/
def openSocket (b : Gate) (address : Address) (_ : Nat) : Channel.SocketAnswer :=
  if b.pool then b.network.openSocket b.sockets address else .failed Channel.poolGone

def surroundings (b : Gate) : Server.Surroundings :=
  ⟨b.tree, 0o22, List.replicate 32 0, b.poolKind, b.transport.ciphers, b.transport.setUp, b.openSocket⟩

def bindingAddress? (text : String) : Option Address :=
  if text = Network.occupiedName then some Network.occupied else Address.parse? text

def backendAddress? (b : Gate) (text : String) : Option Address :=
  match b.network.backend? text with
  | some backend => some backend.address
  | none => Address.parse? text

def configurationOf (r : BindRequest) (address backend : Address) :
    Configuration Unit HostKey.Source :=
  let draft : Configuration.Draft Unit HostKey.Source :=
    ⟨some address, some backend, some (), some r.keys, r.idle, r.auth, r.connect⟩
  ⟨address, backend, (), r.keys, draft.timeouts⟩

def given (notes : List Server.Note) : Option Secure.Setup :=
  notes.findSome? fun
    | .configuring setup => some setup
    | _ => none

def bindWith (b : Gate) (r : BindRequest) (address backend : Address) (accounts : Accounts) :
    Answer × Gate :=
  let report := b.server.bind (configurationOf r address backend) b.surroundings
  let b := { b with server := report.server, tree := report.tree }
  let answer : Answer := .binding report.result (given report.notes)
  match report.result, report.server.localAddress? with
  | .ok _, some found =>
      let network := if address.port == 0 then b.network.pickPort.2 else b.network
      (answer,
        { b with
          network := network.name found.port proxyName
          accounts := accounts
          address := some found })
  | _, _ => (answer, b)

def bind (b : Gate) (r : BindRequest) : Answer × Gate :=
  match bindingAddress? r.address, b.backendAddress? r.backend with
  | some address, some backend =>
      match Accounts.ofLists r.passwords r.hashes with
      | .ok accounts => b.bindWith r address backend accounts
      | .error e => (.badHash e, b)
  | _, _ => (.badAddress, b)

/-! ## Clients -/

/-- A connection to the server, if something listens there. -/
def arrive (b : Gate) (address : Address) : Option (Nat × Nat × Gate) := do
  let traffic ← b.traffic?
  let loop ← traffic.service.runningLoops.find? fun loop => Network.conflict address loop.address
  let (_, b) := b.tell (.arrives loop)
  let (wire, network) := b.network.addWire .socket
  some (traffic.visits.length, wire, { b with network := network })

def addClient (b : Gate) (client : Client) : Gate :=
  { b with clients := client :: b.clients.filter fun c => c.name != client.name }

/-- A stream of its own for a client. -/
def addStream (b : Gate) (client : Client) : Gate :=
  let b := b.addClient client
  { b with network := b.network.bind client.name ⟨client.wire, .caller⟩ }

def connectPlain (b : Gate) (as : String) (visit wire : Nat) : Answer × Gate :=
  let (_, b) := b.tell (.identifies visit)
  (.done, b.addStream ⟨as, visit, .plain, wire, none, b.clock⟩)

/-- The session of a client, if the clock can tell its deadline. -/
def startWatch? (b : Gate) : Option Secure.Watch :=
  b.timeouts?.bind fun timeouts => Secure.Watch.start? b.clock timeouts.auth

/-- Whether a client has the time to agree on keys. -/
def hasTime (b : Gate) : Bool :=
  b.timeouts?.any fun timeouts =>
    handshake.nanos < timeouts.auth.nanos && handshake.nanos < timeouts.idle.nanos

def fingerprint? (b : Gate) : Option String := do
  let traffic ← b.traffic?
  let offer ← (Secure.Offer.ofSetup traffic.setup).toOption
  let name ← offer.keyAlgorithms.head?
  let kind ← Secure.hostKeyAlgorithms.lookup name
  let key ← offer.hostKeys.find? fun key => key.algorithm == kind
  some key.publicKey.fingerprint

def connectSsh (b : Gate) (as : String) (visit wire : Nat) : Answer × Gate :=
  match b.startWatch?, b.fingerprint?, b.hasTime with
  | some watch, some fingerprint, true =>
      let (_, b) := b.tell (.identifies visit)
      let watch := watch.on b.clock .identified
      (.hostKey fingerprint, b.addClient ⟨as, visit, .ssh, wire, some watch, b.clock⟩)
  | _, _, _ => (.connectFailed, (b.tell (.leaves visit)).2)

def connectRaw (b : Gate) (as : String) (visit wire : Nat) : Answer × Gate :=
  match b.startWatch? with
  | none =>
      let b := b.addStream ⟨as, visit, .raw, wire, none, b.clock⟩
      (.done, (b.tell (.leaves visit)).2)
  | some watch =>
      let b := b.addStream ⟨as, visit, .raw, wire, some watch, b.clock⟩
      (.done,
        { b with network := b.network.change wire fun w =>
          w.write .answerer (.ofText Secure.identification) })

def connect (b : Gate) (as : String) (raw : Bool) : Answer × Gate :=
  match b.address with
  | none => (.neverBound, b)
  | some address =>
      match b.arrive address with
      | none => (.connectFailed, b)
      | some (visit, wire, b) =>
          if b.transport.isPlain then b.connectPlain as visit wire
          else if raw then b.connectRaw as visit wire
          else b.connectSsh as visit wire

/-- The server hears of a client. -/
def hear (b : Gate) (visit : Nat) (occurrence : Option Secure.Occurrence) : Gate :=
  { b with clients := b.clients.map fun c =>
    if c.visit == visit then
      { c with
        heard := b.clock
        watch := match occurrence with
          | some o => c.watch.map fun w => w.on b.clock o
          | none => c.watch }
    else c }

def onClient (b : Gate) (name : String) (act : Client → Answer × Gate) : Answer × Gate :=
  match b.client? name with
  | none => (.noClient, b)
  | some client => if b.isServed client.visit then act client else (.ended, b)

def login (b : Gate) (user password : String) (client : Client) : Answer × Gate :=
  let accepted := b.accounts.check user password
  let b := { b with authCalls := b.authCalls + 1 }
  let (_, b) := b.tell (.attempts client.visit accepted)
  let b := b.hear client.visit (some (.attempt accepted))
  (.login accepted,
    if client.speaks = .plain && !accepted then (b.tell (.leaves client.visit)).2 else b)

def isLoggedIn (b : Gate) (visit : Nat) : Bool :=
  (b.traffic?.bind fun t => t.loggedIn? visit).isSome

/-- Those who have not logged in are thrown out for trying. -/
def openChannel (b : Gate) (as : String) (client : Client) : Answer × Gate :=
  if b.isLoggedIn client.visit then
    let channel := (b.lanes.filter fun l => l.visit == client.visit).length
    let (_, b) := b.tell (.opens client.visit channel)
    let (wire, network) := b.network.addWire (.channel laneRoom)
    let b := b.hear client.visit none
    (.done,
      { b with
        network := network.bind as ⟨wire, .caller⟩
        lanes := ⟨as, client.visit, channel, wire⟩ :: b.lanes.filter fun l => l.name != as })
  else (.ended, (b.tell (.leaves client.visit)).2)

/-- The backend's answer to a dial. Without a bound server nobody dials. -/
def backendAnswer (b : Gate) : Channel.PeerAnswer :=
  match b.traffic? with
  | some traffic => b.network.answer b.sockets traffic.backend
  | none => .silent

def repliedTo (told : List Server.Observation) : Option Bool :=
  told.findSome? fun
    | .reply _ success => some success
    | _ => none

/-- Asks for a subsystem on a channel. -/
def ask (b : Gate) (visit channel : Nat) (name : String) : Option Bool × Gate :=
  let links (b : Gate) := ((b.traffic?.bind fun t => t.visits[visit]?).map fun v => v.links.length).getD 0
  let before := links b
  let answer := b.backendAnswer
  let claims := (b.traffic?.bind fun t => (t.loggedIn? visit).map fun v =>
    v.session.claims t.setup.subsystems channel name).getD false
  let limit := (b.timeouts?.map Timeouts.connect).getD .zero
  let waits := claims && answer = .silent
  let b := if waits then b.pass (limit.min patience) else b
  let (told, b) := b.tell (.requests visit channel name answer none)
  let b := b.hear visit none
  let late := waits && patience.nanos < limit.nanos
  let b :=
    if before < links b then
      match b.traffic? with
      | some traffic =>
          let (wire, network) := b.network.reach traffic.backend
          { b with network := network, reaches := b.reaches ++ [⟨visit, before, ⟨wire, .caller⟩⟩] }
      | none => b
    else b
  let closed := told.any fun
    | .channelClosed _ => true
    | _ => false
  let b := match b.lanes.find? fun l => l.visit == visit && l.channel == channel with
    | some lane =>
        if closed then { b with network := b.network.close ⟨lane.wire, .answerer⟩ } else b
    | none => b
  (if late then none else repliedTo told, b)

def subsystemOnLane (b : Gate) (lane : Lane) (name : String) : Answer × Gate :=
  let isOver := match b.network.wires[lane.wire]? with
    | some wire => !wire.isHeld .answerer
    | none => true
  if isOver then (.ended, b)
  else
    match b.ask lane.visit lane.channel name with
    | (some success, b) => (.reply success, b)
    | (none, b) => (.timedOut, b)

/-- On a plain connection the one channel is opened with the request. -/
def subsystemOnStream (b : Gate) (name : String) (client : Client) : Answer × Gate :=
  if !b.isLoggedIn client.visit then (.ended, b)
  else
    let (_, b) := b.tell (.opens client.visit 0)
    match b.ask client.visit 0 name with
    | (some true, b) => (.reply true, b)
    | (some false, b) => (.reply false, (b.tell (.leaves client.visit)).2)
    | (none, b) => (.timedOut, (b.tell (.leaves client.visit)).2)

/-- A closed channel is answered with a close, unless a link works at it. -/
def closeLane (b : Gate) (lane : Lane) : Gate :=
  let (_, b) := b.tell (.closes lane.visit lane.channel)
  let linked := match b.traffic?.bind fun t => t.visits[lane.visit]? with
    | some visit => visit.links.any fun link => link.channel == lane.channel
    | none => false
  let network := b.network.change lane.wire fun w => w.finish .caller
  { b with network := if linked then network else network.close ⟨lane.wire, .answerer⟩ }

/-- Bytes on a stream or a channel. -/
def onStream (b : Gate) (name : String) (step : Stream.Step) : Answer × Gate :=
  let b := match b.lane? name, b.client? name, Stream.sends step with
    | some lane, _, _ => b.hear lane.visit none
    | none, some client, true => b.hear client.visit none
    | none, _, _ => b
  match b.lane? name, Stream.drops step with
  | some lane, true => (.stream .done, b.closeLane lane)
  | _, _ =>
      let attempt (b : Gate) : Option Answer × Gate :=
        let (answer, network) := b.network.onStream name step
        (answer.map Answer.stream, { b with network := network })
      match b.wait attempt with
      | (some answer, b) => (answer, b)
      | (none, b) => (.timedOut, { b with network := b.network.giveUp name })

def isOver (b : Gate) (name : String) : Option Answer × Gate :=
  match b.client? name with
  | none => (some .noClient, b)
  | some client => (if b.isServed client.visit then none else some (.flag (some true)), b)

/-- A client that goes takes its name with it. -/
def disconnect (b : Gate) (name : String) : Answer × Gate :=
  match b.client? name with
  | none => (.noClient, b)
  | some client =>
      let (_, b) := b.tell (.leaves client.visit)
      let network := b.network.close ⟨client.wire, .caller⟩
      let b := settle { b with network := network.unbind name }
      (.done, { b with clients := b.clients.filter fun c => c.name != name })

def act (b : Gate) : Step → Answer × Gate
  | .state => b.onServer fun b =>
      (match b.server.lifecycle with
        | .created => .created
        | .bound _ => .bound
        | .closed _ => .closed, b)
  | .localAddress => b.onServer fun b => (.address b.server.localAddress?, b)
  | .bind request => b.onServer fun b => b.bind request
  | .close => b.onServer fun b =>
      let closing := b.server.close
      (.closing closing.result, { b with server := closing.server })
  | .drop => (.done, { b with server := b.server.drop, isDropped := true })
  | .killPool => (.done, { b with pool := false })
  | .rebindable =>
      (.flag (b.address.map fun address =>
        match b.network.openSocket b.sockets address with
        | .opened _ => true
        | _ => false), b)
  | .authCalls => (.count b.authCalls, b)
  | .listen name => (.done, { b with network := b.network.listen name })
  | .accept name as =>
      match b.network.takeWaiting name with
      | some (wire, network) => (.done, { b with network := network.bind as ⟨wire, .answerer⟩ })
      | none => (.timedOut, b)
  | .dialled name => (.flag (some (b.network.takeWaiting name).isSome), b)
  | .connect as => b.connect as false
  | .raw as => b.connect as true
  | .login name user password => b.onClient name (b.login user password)
  | .loginNone name => b.onClient name fun client =>
      (.methods ["password"] false, b.hear client.visit none)
  | .openChannel name as => b.onClient name (b.openChannel as)
  | .forward name => b.onClient name fun client => (.prohibited, b.hear client.visit none)
  | .subsystem on name =>
      match b.lane? on with
      | some lane => b.subsystemOnLane lane name
      | none => b.onClient on (b.subsystemOnStream name)
  | .request name =>
      match b.lane? name with
      | some lane => (if b.isServed lane.visit then .noReply else .ended, b.hear lane.visit none)
      | none => (.stream .unknown, b)
  | .disconnect name => b.disconnect name
  | .disconnected name =>
      let (answer, b) := b.wait fun b => b.isOver name
      (answer.getD (.flag (some false)), b)
  | .stream name step => b.onStream name step

/-- A step and all that it sets off. -/
def step (b : Gate) (s : Step) : Answer × Gate :=
  let (answer, b) := b.act s
  (answer, b.settle)

end Gate

end NetconfGate.Bench
