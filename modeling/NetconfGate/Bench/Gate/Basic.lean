import NetconfGate.Bench.Carrier
import NetconfGate.Password.Table
import NetconfGate.Secure.Keeper
import NetconfGate.Secure.Offer
import NetconfGate.Server.Basic

/-!
# A bench for servers

One server on an in-memory network, with its clients and its backends. The
clients either speak SSH or log in and ask for one subsystem in the plain.
-/

namespace NetconfGate.Bench

open Server (Event Link Visit)

namespace Gate

/-- What clients speak. A plain transport offers the ciphers that it is given. -/
inductive Transport where
  | ssh
  | plain (offered : List String)

def rejectedName : String := "reject"
def rejection : String := "rejected by transport"

namespace Transport

def ciphers : Transport → List String
  | ssh => Secure.ownCiphers
  | plain offered => offered

/-- A plain transport wants nothing but that one name is gone. -/
def setUp : Transport → Secure.Setup → Except Channel.Error Unit
  | ssh, setup => (Secure.Offer.ofSetup setup).map fun _ => ()
  | plain _, setup =>
      if setup.ciphers.contains rejectedName then .error (.configuration rejection) else .ok ()

def isPlain : Transport → Bool
  | ssh => false
  | plain _ => true

end Transport

/-- Who may log in. A user with a stored hash is checked against that alone. -/
structure Accounts where
  passwords : List (String × String)
  hashes : Password.Table

namespace Accounts

def none : Accounts := ⟨[], .empty⟩

def ofLists (passwords hashes : List (String × String)) : Except Password.Error Accounts :=
  (hashes.foldlM (fun (table : Password.Table) entry => table.add entry.1 entry.2) .empty).map fun table =>
    ⟨passwords.reverse, table⟩

def check (a : Accounts) (user password : String) : Bool :=
  match a.hashes.get? user with
  | some _ => a.hashes.login user password
  | Option.none => a.passwords.lookup user == some password

end Accounts

/-- What a client does on its connection. -/
inductive Speaks where
  | ssh
  /-- Nothing of its own accord. -/
  | raw
  | plain
deriving DecidableEq

structure Client where
  name : String
  visit : Nat
  speaks : Speaks
  wire : Nat
  watch : Option Secure.Watch
  /-- When the server last heard of it. -/
  heard : Moment

/-- A channel of an SSH client. -/
structure Lane where
  name : String
  visit : Nat
  channel : Nat
  wire : Nat

/-- The backend's end of a link. -/
structure Reach where
  visit : Nat
  link : Nat
  backend : End

structure BindRequest where
  address : String
  backend : String
  passwords : List (String × String)
  hashes : List (String × String)
  keys : HostKey.Source
  idle : Option Duration
  auth : Option Duration
  connect : Option Duration

inductive Step where
  | state
  | localAddress
  | bind (request : BindRequest)
  | close
  | drop
  | killPool
  | rebindable
  | authCalls
  | listen (backend : String)
  | accept (backend : String) (as : String)
  | dialled (backend : String)
  | connect (as : String)
  | raw (as : String)
  | login (client : String) (user password : String)
  | loginNone (client : String)
  | openChannel (client : String) (as : String)
  | forward (client : String)
  | subsystem (on : String) (name : String)
  | request (channel : String)
  | disconnect (client : String)
  | disconnected (client : String)
  | stream (name : String) (step : Stream.Step)

inductive Answer where
  | done
  | created
  | bound
  | closed
  | dropped
  | address (address : Option Address)
  | badAddress
  | badHash (error : Password.Error)
  /-- How a bind went, and what the transport was given. -/
  | binding (result : Except Server.Error Unit) (setup : Option Secure.Setup)
  | closing (result : Except Server.Error Unit)
  | flag (value : Option Bool)
  | count (value : Nat)
  | neverBound
  | connectFailed
  | hostKey (fingerprint : String)
  | login (accepted : Bool)
  /-- The methods that are left, and whether a part was accepted. -/
  | methods (names : List String) (partialSuccess : Bool)
  | prohibited
  | reply (success : Bool)
  | noReply
  | noClient
  | ended
  | timedOut
  | stream (answer : Stream.Answer)

end Gate

structure Gate where
  server : Server
  transport : Gate.Transport
  poolKind : Channel.Pool
  /-- Whether the pool is still there. -/
  pool : Bool
  network : Network
  tree : FileTree
  accounts : Gate.Accounts
  authCalls : Nat
  clock : Moment
  clients : List Gate.Client
  lanes : List Gate.Lane
  reaches : List Gate.Reach
  /-- Where it listened last. -/
  address : Option Address
  isDropped : Bool

namespace Gate

/-- The longest that a step waits. -/
def patience : Duration := .ofSeconds 5

/-- What a client needs at least to agree on keys. -/
def handshake : Duration := .ofMillis 5

def proxyName : String := "proxy"
def laneRoom : Nat := Nat.pow 2 32

def new (transport : Transport) (policy : CipherPolicy) (poolKind : Channel.Pool)
    (backends : List (String × Manner)) (tree : FileTree) : Gate :=
  let network := backends.foldl (fun n entry => n.addBackend entry.1 entry.2) Network.new
  ⟨.new policy, transport, poolKind, true, network, tree, .none, 0, .start, [], [], [], none, false⟩

def traffic? (b : Gate) : Option Server.Traffic := b.server.bound?.map Server.Bound.traffic

def isServed (b : Gate) (visit : Nat) : Bool :=
  (b.traffic?.bind fun t => t.served? visit).isSome

def isLinked (b : Gate) (visit link : Nat) : Bool :=
  (b.traffic?.bind fun t => t.link? visit link).isSome

def client? (b : Gate) (name : String) : Option Client := b.clients.find? fun c => c.name == name

def lane? (b : Gate) (name : String) : Option Lane := b.lanes.find? fun l => l.name == name

def sockets (b : Gate) : List Address :=
  (b.traffic?.map fun t => t.service.sockets).getD []

def timeouts? (b : Gate) : Option Timeouts := b.traffic?.map fun t => t.setup.timeouts

/-- The end of a link that leads to its client. -/
def clientEnd? (b : Gate) (visit : Nat) (link : Link) : Option End :=
  if b.transport.isPlain then
    (b.clients.find? fun c => c.visit == visit).map fun c => ⟨c.wire, .answerer⟩
  else
    (b.lanes.find? fun l => l.visit == visit && l.channel == link.channel).map fun l =>
      ⟨l.wire, .answerer⟩

end Gate

end NetconfGate.Bench
