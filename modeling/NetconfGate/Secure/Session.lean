/-!
# Secure sessions

One client: whether it has logged in, and the channels that it opened and that
no subsystem has claimed yet. A request for a known subsystem claims its
channel for good; when the backend cannot be had the channel is closed.
-/

namespace NetconfGate.Secure

structure Session where
  authenticated : Bool
  channels : List Nat
deriving DecidableEq

/-- What a request for a subsystem leads to. -/
structure Response (β : Type) where
  session : Session
  /-- The answer to the client. -/
  success : Bool
  /-- Whether the server closes the channel. -/
  closed : Bool
  /-- What was started for the channel. -/
  started : Option β

namespace Session

variable {β ε : Type}

def new : Session := ⟨false, []⟩

/-- A login that is accepted stays so. -/
def attempt (s : Session) (accepted : Bool) : Session :=
  { s with authenticated := s.authenticated || accepted }

def openChannel (s : Session) (channel : Nat) : Session :=
  if s.channels.contains channel then s else { s with channels := channel :: s.channels }

def closeChannel (s : Session) (channel : Nat) : Session :=
  { s with channels := s.channels.filter fun c => c != channel }

/-- Whether a request is one that the backend is dialled for. -/
def claims (s : Session) (subsystems : List String) (channel : Nat) (name : String) : Bool :=
  subsystems.contains name && s.channels.contains channel

/-- `backend` is how the dial went, if one was made, and `spawn` starts the
bridge, which the group may refuse. -/
def request (s : Session) (subsystems : List String) (channel : Nat) (name : String)
    (backend : Except ε β) (spawn : Bool) : Response β :=
  if s.claims subsystems channel name then
    let s := s.closeChannel channel
    match backend with
    | .error _ => ⟨s, false, true, none⟩
    | .ok backend => ⟨s, true, !spawn, if spawn then some backend else none⟩
  else ⟨s, false, false, none⟩

/-- A request that claims its channel takes it, however it is answered. -/
theorem session_request {s : Session} {subsystems : List String} {channel : Nat} {name : String}
    (claimed : s.claims subsystems channel name = true) (backend : Except ε β) (spawn : Bool) :
    (s.request subsystems channel name backend spawn).session = s.closeChannel channel := by
  rw [request, if_pos claimed]
  cases backend <;> rfl

theorem mem_channels_openChannel (s : Session) (channel other : Nat) :
    other ∈ (s.openChannel channel).channels ↔ other = channel ∨ other ∈ s.channels := by
  unfold openChannel
  split <;> rename_i h <;> simp_all

theorem mem_channels_closeChannel (s : Session) (channel other : Nat) :
    other ∈ (s.closeChannel channel).channels ↔ other ∈ s.channels ∧ other ≠ channel := by
  simp [closeChannel]

end Session

end NetconfGate.Secure
