import NetconfGate.Bridge.Error
import NetconfGate.Relay.Basic
import NetconfGate.Session.Id

/-!
# Bridges

A bridge joins one channel of a client to one connection to the backend. It
dials when the channel is asked for, relays, and is closed.

- `requested` → `connecting` when it dials,
- `connecting` → `bridging` when the backend is there, or `closed` when not,
- `bridging` → `closed` when the relay is over.
-/

namespace NetconfGate

/-- How far a bridge is. -/
inductive Bridge.State where
  | requested
  | connecting
  | bridging
  | closed
deriving DecidableEq

/-- `β` is a connection to the backend. -/
structure Bridge (β : Type) where
  session : SessionId
  address : Address
  state : Bridge.State
  backend : Option β

namespace Bridge

variable {β : Type}

/-- The subsystem that bridges serve. -/
def subsystem : String := "netconf"

def new (session : SessionId) (address : Address) : Bridge β := ⟨session, address, .requested, none⟩

def dialling (b : Bridge β) : Bridge β := { b with state := .connecting }

/-- A new connection takes the place of one that is held; without one, what is
held stays. -/
def dialled (b : Bridge β) : Except Channel.Error β → Except Error Unit × Bridge β
  | .ok backend => (.ok (), { b with state := .bridging, backend := some backend })
  | .error cause => (.error (.backendUnavailable b.address cause), { b with state := .closed })

def connect (b : Bridge β) (outcome : Except Channel.Error β) : Except Error Unit × Bridge β :=
  b.dialling.dialled outcome

/-- The bridge of a channel that was asked for, once its backend is there. -/
def create (session : SessionId) (address : Address) (outcome : Except Channel.Error β) :
    Except Error (Bridge β) :=
  let (result, bridge) := (new session address).connect outcome
  result.map fun _ => bridge

/-- Takes the connection out for a relay. -/
def start (b : Bridge β) : Except Error (β × Bridge β) :=
  match b.backend with
  | none => .error .notConnected
  | some backend => .ok (backend, { b with backend := none })

/-- The relay is over. -/
def finish (b : Bridge β) : Bridge β := { b with state := .closed }

/-- What a bridge ends with, given what its relay ended with. -/
def outcome : Except SystemError Relay.Summary → Except Error Relay.Summary
  | .ok summary => .ok summary
  | .error cause => .error (.relay cause)

end Bridge

end NetconfGate
