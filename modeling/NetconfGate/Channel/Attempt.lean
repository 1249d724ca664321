import NetconfGate.Channel.Dial

/-!
# Dials in flight

A dial takes a token of the group when it begins and is not one of its tasks. It
goes on when there is news of the peer or when its token is cancelled, and if
both have come it may look at either first. What it was told first is its end.
-/

namespace NetconfGate.Channel

/-- What comes to a dial that waits. -/
inductive News where
  | accepted
  | refused (cause : SystemError)
  /-- The limit is over. -/
  | late
deriving DecidableEq

/-- What the peer's answer is to a dial that nothing else ends. -/
def PeerAnswer.news (answer : PeerAnswer) (timeout : Duration) : News :=
  match dialEnd timeout answer.time? none, answer with
  | .answered, .accepts _ => .accepted
  | .answered, .refuses _ cause => .refused cause
  | _, _ => .late

inductive Attempt.Stage where
  | waiting (token : Nat)
  | ended (result : Except Error Departure)

structure Attempt where
  address : Address
  timeout : Duration
  stage : Attempt.Stage

namespace Attempt

def result? (a : Attempt) : Option (Except Error Departure) :=
  match a.stage with
  | .waiting _ => none
  | .ended result => some result

def token? (a : Attempt) : Option Nat :=
  match a.stage with
  | .waiting token => some token
  | .ended _ => none

def ends (a : Attempt) (result : Except Error Departure) : Attempt := { a with stage := .ended result }

@[simp]
theorem result?_ends (a : Attempt) (result : Except Error Departure) :
    (a.ends result).result? = some result := rfl

@[simp]
theorem token?_ends (a : Attempt) (result : Except Error Departure) :
    (a.ends result).token? = none := rfl

end Attempt

namespace Service

/-- A dial begins; a group that drains refuses it. -/
def attempt (s : Service) (address : Address) (timeout : Duration) : Attempt × Service :=
  if s.group.draining then (⟨address, timeout, .ended (.error .groupShutdown)⟩, s)
  else
    let (token, group) := s.group.token
    (⟨address, timeout, .waiting token⟩, { s with group := group })

/-- The connection of a dial stands. -/
def connected (s : Service) (token : Nat) : Departure × Service :=
  let (id, s) := s.drawId
  let departure : Departure := ⟨id, token⟩
  (departure, { s with departures := s.departures ++ [departure] })

/-- What news comes to. -/
def heed (s : Service) (a : Attempt) (token : Nat) : News → Attempt × Service
  | .accepted =>
      let (departure, s) := s.connected token
      (a.ends (.ok departure), s)
  | .refused cause => (a.ends (.error (.connect a.address cause)), s)
  | .late => (a.ends (.error (.connect a.address (noAnswer a.timeout))), s)

/-- A dial goes on. `newsFirst` tells what it looks at first. -/
def pursue (s : Service) (a : Attempt) (news : Option News) (newsFirst : Bool) :
    Attempt × Service :=
  match a.stage, news with
  | .ended _, _ => (a, s)
  | .waiting token, none =>
      if s.group.tokenCancelled token then (a.ends (.error .groupShutdown), s) else (a, s)
  | .waiting token, some news =>
      if s.group.tokenCancelled token && !newsFirst then (a.ends (.error .groupShutdown), s)
      else s.heed a token news

theorem attempt_of_draining {s : Service} (drains : s.group.draining = true) (address : Address)
    (timeout : Duration) :
    s.attempt address timeout = (⟨address, timeout, .ended (.error .groupShutdown)⟩, s) := by
  simp [attempt, drains]

end Service

end NetconfGate.Channel
