import NetconfGate.Configuration
import NetconfGate.Secure.Watch

/-!
# Timers

The times that a session and its dials go by. The deadline of the login is
reckoned when the client is accepted, and there is no session if the clock cannot
tell it. The other timers are set when they are needed; one that is set farther
than the clock can tell goes off in the far future, thirty years on.
-/

namespace NetconfGate

namespace Moment

/-- Thirty years. -/
def farAway : Duration := .ofSeconds (30 * 365 * 86400)

/-- When a timer goes off that is set now. -/
def alarm (m : Moment) (d : Duration) : Moment := (m.after? d).getD ⟨m.nanos + farAway.nanos⟩

end Moment

structure Timers where
  login : Moment
  idle : Moment
  dial : Moment
deriving DecidableEq

/-- For a client that is accepted at a moment, and a dial that is made for it at
another. -/
def Timeouts.timers? (t : Timeouts) (accepted dialled : Moment) : Option Timers :=
  (accepted.after? t.auth).map fun login =>
    ⟨login, accepted.alarm t.idle, dialled.alarm t.connect⟩

end NetconfGate
