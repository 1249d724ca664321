import NetconfGate.Channel.Service

/-!
# Dialling

A dial ends with whatever comes first: the peer's answer, the limit on waiting
for it, or the cancelling of the group. Only a connection that stands draws a
session number. A group that drains already is not dialled from at all.
-/

namespace NetconfGate.Channel

/-- What the peer does, and when, counted from the start of the dial. -/
inductive PeerAnswer where
  | accepts (time : Duration)
  | refuses (time : Duration) (cause : SystemError)
  | silent
deriving DecidableEq

namespace PeerAnswer

def time? : PeerAnswer → Option Duration
  | accepts time => some time
  | refuses time _ => some time
  | silent => none

end PeerAnswer

/-- The source of an error that names the limit. -/
def noAnswer (timeout : Duration) : SystemError :=
  .custom .timedOut ("no answer within " ++ timeout.text)

/-- What a dial ends with. -/
inductive DialEnd where
  | answered
  | timedOut
  | shutDown
deriving DecidableEq

/-- At the same moment an answer comes before the limit and both come before
the cancelling of the group. -/
def dialEnd (timeout : Duration) (answer shutdown : Option Duration) : DialEnd :=
  let limit := match answer with
    | some time => min time.nanos timeout.nanos
    | none => timeout.nanos
  let stopped := shutdown.any fun time => time.nanos < limit
  if stopped then .shutDown
  else match answer with
    | some time => if time.nanos ≤ timeout.nanos then .answered else .timedOut
    | none => .timedOut

namespace Service

/-- How a dial went. -/
structure Dialling where
  result : Except Error Departure
  service : Service
  elapsed : Duration

/-- A connection that stands is numbered and gets a token of the group. -/
def depart (s : Service) : Departure × Service :=
  let (id, s) := s.drawId
  let (token, group) := s.group.token
  let departure : Departure := ⟨id, token⟩
  (departure, { s with group := group, departures := s.departures ++ [departure] })

/-- `shutdown` is when the group is cancelled, if that happens. -/
def dial (s : Service) (address : Address) (timeout : Duration) (answer : PeerAnswer)
    (shutdown : Option Duration) : Dialling :=
  if s.group.draining then ⟨.error .groupShutdown, s, .zero⟩
  else
    match dialEnd timeout answer.time? shutdown, answer with
    | .shutDown, _ => ⟨.error .groupShutdown, s, shutdown.getD .zero⟩
    | .answered, .accepts time =>
        let (departure, s) := s.depart
        ⟨.ok departure, s, time⟩
    | .answered, .refuses time cause => ⟨.error (.connect address cause), s, time⟩
    | _, _ => ⟨.error (.connect address (noAnswer timeout)), s, timeout⟩

theorem dial_of_draining {s : Service} (draining : s.group.draining = true) (address : Address)
    (timeout : Duration) (answer : PeerAnswer) (shutdown : Option Duration) :
    s.dial address timeout answer shutdown = ⟨.error .groupShutdown, s, .zero⟩ := by
  simp [dial, draining]

end Service

end NetconfGate.Channel
