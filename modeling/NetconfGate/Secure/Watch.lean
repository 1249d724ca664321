import NetconfGate.Secure.Deadline
import NetconfGate.Secure.Offer

/-!
# Watching a session

A client has until its deadline to log in, counted from the moment at which its
connection was accepted, whatever it does until then; a login that is accepted
lifts the deadline for good. A session may also end by itself, fail while it is
set up, or be shut down with its group. What comes first is how it ends.

A shutdown reaches a session twice: its task is dropped by the group, and the
session itself says goodbye. Whichever has its turn first decides whether the
client is told.
-/

namespace NetconfGate.Secure

inductive Ending where
  | authenticationTimeout
  | setupFailed
  | ended
  | shutDown
deriving DecidableEq

/-- What happens to a session. -/
inductive Occurrence where
  | identified
  | setupFails
  | attempt (accepted : Bool)
  | ends
  | shutdown
deriving DecidableEq

/-- `identified` once both sides have named their protocol. -/
structure Watch where
  deadline : Moment
  identified : Bool
  authenticated : Bool
  ending : Option (Moment × Ending)
deriving DecidableEq

namespace Watch

/-- A deadline that the clock cannot tell leaves no session. -/
def start? (accepted : Moment) (timeout : Duration) : Option Watch :=
  (accepted.after? timeout).map fun deadline => ⟨deadline, false, false, none⟩

theorem start?_eq_none_iff (accepted : Moment) (timeout : Duration) :
    start? accepted timeout = none ↔ Moment.limit ≤ accepted.nanos + timeout.nanos := by
  simp [start?, Moment.after?_eq_none_iff]

/-- The time comes to be `now`. -/
def pass (w : Watch) (now : Moment) : Watch :=
  if w.ending.isNone && !w.authenticated && !now.isBefore w.deadline then
    { w with ending := some (w.deadline, .authenticationTimeout) }
  else w

/-- Something happens, the deadline aside. -/
def take (w : Watch) (now : Moment) (occurrence : Occurrence) : Watch :=
  if w.ending.isSome then w
  else
    match occurrence with
    | .identified => { w with identified := true }
    | .setupFails => if w.identified then w else { w with ending := some (now, .setupFailed) }
    | .attempt accepted =>
        if w.identified then { w with authenticated := w.authenticated || accepted } else w
    | .ends => if w.identified then { w with ending := some (now, .ended) } else w
    | .shutdown => { w with ending := some (now, .shutDown) }

def on (w : Watch) (now : Moment) (occurrence : Occurrence) : Watch :=
  (w.pass now).take now occurrence

theorem pass_of_authenticated {w : Watch} (authenticated : w.authenticated = true) (now : Moment) :
    w.pass now = w := by
  simp [pass, authenticated]

theorem on_of_ended {w : Watch} (ended : w.ending.isSome = true) (now : Moment)
    (occurrence : Occurrence) : w.on now occurrence = w := by
  cases h : w.ending <;> simp_all [on, pass, take]

end Watch

/-- What a client that connects at a moment gets to know; a session that is over
at once, or that the clock does not allow, offers nothing. -/
def Offer.announced? (o : Offer) (accepted : Moment) (timeout : Duration) : Option Offer :=
  (Watch.start? accepted timeout).bind fun w =>
    if (w.pass accepted).ending.isSome then none else some o

/-- Who has its turn first when both are ready. -/
inductive Turn where
  | group
  | session
deriving DecidableEq

/-- What the client of a session that was set up is left with. -/
structure Farewell where
  /-- Whether it was told that the server shuts down. -/
  told : Bool
  /-- Whether its connection is served on, by a task that no group knows. -/
  served : Bool
deriving DecidableEq

def goodbye : String := "Server shutting down"

/-- A dropped task tells nobody, and what serves the connection goes on. -/
def farewell : Turn → Farewell
  | .group => ⟨false, true⟩
  | .session => ⟨true, false⟩

end NetconfGate.Secure
