import NetconfGate.Channel.Service

/-!
# Acceptors

An acceptor listens on at most one address at a time. Binding opens a socket,
with up to three attempts as long as the port is in use, reads the address that it
listens on, and hands it to a new accept loop; it either does all of this or leaves
everything as it was. Unbinding stops the loop and waits for it.
-/

namespace NetconfGate.Channel

def bindAttempts : Nat := 3

/-- What the system answers to an attempt at a socket. -/
inductive SocketAnswer where
  | opened (address : Address)
  /-- The socket listens, but where it does cannot be read. -/
  | nameless (cause : SystemError)
  | failed (cause : SystemError)
deriving DecidableEq

/-- The port is used by another socket, which may be gone later. -/
def SocketAnswer.isInUse : SocketAnswer → Bool
  | opened _ => false
  | nameless _ => false
  | failed cause => cause.isAddressInUse

theorem SocketAnswer.isInUse_iff {answer : SocketAnswer} :
    answer.isInUse = true ↔ ∃ cause, answer = failed cause ∧ cause.isAddressInUse = true := by
  cases answer <;> simp [isInUse]

namespace Service

/-- A new acceptor and its number. -/
def acceptor (s : Service) : Nat × Service :=
  (s.acceptors.length, { s with acceptors := s.acceptors ++ [none] })

def boundLoop? (s : Service) (acceptor : Nat) : Option Loop :=
  s.acceptors[acceptor]?.join.bind fun loop => s.loops[loop]?

def localAddress? (s : Service) (acceptor : Nat) : Option Address :=
  (s.boundLoop? acceptor).map Loop.address

def isBound (s : Service) (acceptor : Nat) : Bool := (s.acceptors[acceptor]?.join).isSome

/-- What an attempt comes to, when there is no other after it. -/
def opening (address : Address) (number : Nat) : SocketAnswer → Except Error Address × List Note
  | .opened found => (.ok found, atLast)
  | .nameless cause => (.error (.system cause), atLast)
  | .failed cause => (.error (.ofSocket address cause), [])
where
  atLast : List Note := if number > 1 then [.boundAtLast address number] else []

/-- From attempt `number` on, with `left` more after it. `attempt` is what the
system answers to each. -/
def openFrom (address : Address) (attempt : Nat → SocketAnswer) (number : Nat) :
    Nat → Except Error Address × List Note
  | 0 => opening address number (attempt number)
  | left + 1 =>
      if (attempt number).isInUse then
        let (result, notes) := openFrom address attempt (number + 1) left
        (result, .portInUse address.port.toNat number :: notes)
      else opening address number (attempt number)

def openSocket (address : Address) (attempt : Nat → SocketAnswer) :
    Except Error Address × List Note :=
  openFrom address attempt 1 (bindAttempts - 1)

/-- Hands a socket to a new loop. A group that refuses the loop lets the socket
go. -/
def listen (s : Service) (acceptor : Nat) (address : Address) : Except Error Address × Service :=
  match s.localAddress? acceptor with
  | some existing => (.error (.alreadyBound existing), s)
  | none =>
      match s.spawn with
      | .error e => (.error e, s)
      | .ok (task, s) =>
          (.ok address,
            { s with
              loops := s.loops ++ [⟨acceptor, task, address, false⟩]
              acceptors := s.acceptors.set acceptor (some s.loops.length) })

/-- How a bind or an unbind went. -/
structure Listening (α : Type) where
  result : Except Error α
  service : Service
  notes : List Note

def bind (s : Service) (acceptor : Nat) (address : Address) (attempt : Nat → SocketAnswer) :
    Listening Address :=
  match s.localAddress? acceptor with
  | some existing => ⟨.error (.alreadyBound existing), s, []⟩
  | none =>
      match openSocket address attempt with
      | (.error e, notes) => ⟨.error e, s, notes⟩
      | (.ok found, notes) =>
          match s.listen acceptor found with
          | (.error e, s) => ⟨.error e, s, notes⟩
          | (.ok found, s) => ⟨.ok found, s, notes ++ [.listening found]⟩

theorem bind_of_bound {s : Service} {acceptor : Nat} {existing : Address}
    (bound : s.localAddress? acceptor = some existing) (address : Address)
    (attempt : Nat → SocketAnswer) :
    s.bind acceptor address attempt = ⟨.error (.alreadyBound existing), s, []⟩ := by
  simp [bind, bound]

/-- What is said of a loop that did not come to its end. -/
def notClean (loop : Loop) (what : String) : Error :=
  .interrupted ("accept loop on " ++ loop.address.text ++ " did not stop cleanly: task "
    ++ toString loop.task ++ " " ++ what)

/-- What waiting for an ended loop gives. -/
def joined (s : Service) (loop : Loop) : Except Error Unit :=
  match s.group.outcome? loop.task with
  | some .lost => .error (notClean loop "was cancelled")
  | some .panicked => .error (notClean loop "panicked")
  | _ => .ok ()

def unbind (s : Service) (acceptor : Nat) : Listening Unit :=
  match s.acceptors[acceptor]?.join with
  | none => ⟨.ok (), s, []⟩
  | some index =>
      let s := { s with acceptors := s.acceptors.set acceptor none }
      match s.loops[index]? with
      | none => ⟨.ok (), s, []⟩
      | some loop =>
          let running := s.group.isRunning loop.task
          let s := { s with loops := s.loops.set index { loop with stopped := true } }
          let s := s.finish loop.task .completed
          let stopped := if running then [.loopStopped] else []
          match s.joined loop with
          | .ok _ => ⟨.ok (), s, stopped ++ [.stoppedListening loop.address]⟩
          | .error e => ⟨.error e, s, stopped⟩

end Service

end NetconfGate.Channel
