import NetconfGate.Channel.Reception
import NetconfGate.Configuration

/-!
# Services and their handles

A service is reached through handles: clones of the first one, and the acceptors
and connectors that are made from any of these. Each handle keeps to what it is
for, and what it does happens in its service. An acceptor cannot be cloned.
-/

namespace NetconfGate.Channel

/-- What a handle is for. An acceptor goes by its number in the service, and a
connector has the timeout of its dials. -/
inductive Handle.Role where
  | service
  | acceptor (number : Nat)
  | connector (timeout : Duration)
deriving DecidableEq

structure Handle where
  service : Nat
  role : Handle.Role
deriving DecidableEq

namespace Reception

def isLoopOf (r : Reception) (acceptor loop : Nat) : Bool :=
  r.service.loops[loop]?.any fun loop => loop.acceptor == acceptor

def isConnectionOf (r : Reception) (acceptor connection : Nat) : Bool :=
  r.connections[connection]?.any fun connection => connection.acceptor == acceptor

def isAttemptOf (r : Reception) (timeout : Duration) (attempt : Nat) : Bool :=
  r.course.attempts[attempt]?.any fun attempt => attempt.timeout == timeout

/-- Whether an event is one of a handle with that role: acceptors bind, take
connections and serve them, connectors dial, and the service itself is shut down
and closed and has tasks of its own. -/
def isOf (r : Reception) : Handle.Role → Event → Bool
  | .service, .aside (.operation _) => true
  | .service, .aside (.resumes _) => true
  | .acceptor number, .aside (.listens acceptor _) => acceptor == number
  | .acceptor number, .unbinds acceptor => acceptor == number
  | .acceptor number, .returns loop => r.isLoopOf number loop
  | .acceptor number, .stops loop => r.isLoopOf number loop
  | .acceptor number, .takes loop _ => r.isLoopOf number loop
  | .acceptor number, .settles connection => r.isConnectionOf number connection
  | .acceptor number, .calls connection => r.isConnectionOf number connection
  | .acceptor number, .answers connection _ => r.isConnectionOf number connection
  | .acceptor number, .drops connection => r.isConnectionOf number connection
  | .connector timeout, .aside (.dials _ limit) => limit == timeout
  | .connector timeout, .aside (.pursues attempt _ _) => r.isAttemptOf timeout attempt
  | .connector timeout, .misses attempt _ => r.isAttemptOf timeout attempt
  | _, _ => false

end Reception

/-- Services and the handles of them, both in the order in which they were made. -/
structure Sharing where
  services : List Reception
  handles : List Handle

namespace Sharing

def nothing : Sharing := ⟨[], []⟩

inductive Command where
  /-- A new service on a pool. -/
  | service (pool : Pool)
  | clone (handle : Nat)
  | acceptor (handle : Nat)
  | connector (handle : Nat)
  /-- A connector gets another timeout. -/
  | limit (handle : Nat) (timeout : Duration)
  | tells (handle : Nat) (event : Reception.Event)

inductive Reply where
  | made (handle : Nat)
  /-- It is done, and these numbers were given out. -/
  | done (ids : List SessionId)
  | refused
deriving DecidableEq

/-- One more handle. -/
def grant (s : Sharing) (handle : Handle) : Sharing × Reply :=
  ({ s with handles := s.handles ++ [handle] }, .made s.handles.length)

/-- A service does what its handle tells it. -/
def tell (s : Sharing) (handle : Handle) (event : Reception.Event) : Sharing × Reply :=
  match s.services[handle.service]? with
  | none => (s, .refused)
  | some r =>
      if r.isOf handle.role event then
        ({ s with services := s.services.set handle.service (r.step event) },
          .done (r.given (r.step event)))
      else (s, .refused)

def grantAcceptor (s : Sharing) (service : Nat) : Sharing × Reply :=
  match s.services[service]? with
  | none => (s, .refused)
  | some r =>
      { s with services := s.services.set service (r.step (.aside .acceptor)) }.grant
        ⟨service, .acceptor r.service.acceptors.length⟩

def step (s : Sharing) : Command → Sharing × Reply
  | .service pool =>
      match Service.onPool pool with
      | .error _ => (s, .refused)
      | .ok made =>
          { s with services := s.services ++ [Reception.new.withService made] }.grant
            ⟨s.services.length, .service⟩
  | .clone handle =>
      match s.handles[handle]? with
      | some ⟨service, .service⟩ => s.grant ⟨service, .service⟩
      | some ⟨service, .connector timeout⟩ => s.grant ⟨service, .connector timeout⟩
      | _ => (s, .refused)
  | .acceptor handle =>
      match s.handles[handle]? with
      | some ⟨service, .service⟩ => s.grantAcceptor service
      | _ => (s, .refused)
  | .connector handle =>
      match s.handles[handle]? with
      | some ⟨service, .service⟩ => s.grant ⟨service, .connector defaultConnectTimeout⟩
      | _ => (s, .refused)
  | .limit handle timeout =>
      match s.handles[handle]? with
      | some ⟨service, .connector _⟩ =>
          ({ s with handles := s.handles.set handle ⟨service, .connector timeout⟩ }, .done [])
      | _ => (s, .refused)
  | .tells handle event =>
      match s.handles[handle]? with
      | none => (s, .refused)
      | some handle => s.tell handle event

def run (s : Sharing) : List Command → List Reply
  | [] => []
  | command :: rest => (s.step command).2 :: (s.step command).1.run rest

end Sharing

end NetconfGate.Channel
