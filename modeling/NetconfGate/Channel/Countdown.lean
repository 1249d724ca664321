import NetconfGate.Channel.CloseCall

/-!
# Close calls on the clock

A close call with the time since it was made. A task ends by itself at a time of
its own or never; an accept loop is a task that ends as soon as the group
drains. The clock goes on only as far as nothing is due: not past the end of a
task, not while a cancelled task still runs, and not while the call has what it
waits for or has waited for as long as it may. A spawn looks at the group and enters
its task in one step, so that no task comes into a group that drains.
-/

namespace NetconfGate.Channel

/-- What others may do without ending or cancelling a task. -/
def Operation.spares : Operation → Bool
  | .ends _ _ => false
  | .cancel => false
  | _ => true

/-- Whoever was asked to stop has stopped. -/
def Group.Settled (g : Group) : Prop :=
  g.cancelled = true → ∀ task, g.isRunning task = false

/-- `since` is when the call came to its stage; all times are counted from the
call. -/
structure Countdown where
  call : CloseCall
  now : Duration
  since : Duration
deriving DecidableEq

namespace Countdown

def start (s : Service) (mode : CloseMode) : Countdown := ⟨.start s mode, .zero, .zero⟩

def group (c : Countdown) : Group := c.call.service.group

def hasReturned (c : Countdown) : Bool := c.call.stage == .returned

/-- Whether the call has waited for as long as it may. -/
def isLate (c : Countdown) : Bool := c.since.nanos + closeTimeout.nanos ≤ c.now.nanos

def setService (c : Countdown) (service : Service) : Countdown :=
  { c with call := { c.call with service := service } }

def finish (c : Countdown) (task : Nat) (outcome : Outcome) : Countdown :=
  c.setService (c.call.service.finish task outcome)

def resume (c : Countdown) : Countdown :=
  let call := c.call.resume c.isLate
  ⟨call, c.now, if call.stage = c.call.stage then c.since else c.now⟩

/-- The task does not end by itself before `now`. -/
def Pending (ends : Nat → Option Duration) (task : Nat) (now : Duration) : Prop :=
  ∀ time, ends task = some time → now.nanos ≤ time.nanos

/-- Nothing is due before `later`. -/
structure Idle (c : Countdown) (ends : Nat → Option Duration) (later : Duration) : Prop where
  tasks : ∀ task, c.group.isRunning task = true → Pending ends task later
  settled : c.group.Settled
  call : c.hasReturned = true ∨
    (c.group.isTerminated = false ∧ later.nanos ≤ c.since.nanos + closeTimeout.nanos)

/-- `ends` says when a task ends by itself. -/
inductive Step (ends : Nat → Option Duration) (c : Countdown) : Countdown → Prop where
  | completes {task : Nat} (runs : c.group.isRunning task = true) (due : ends task = some c.now) :
      Step ends c (c.finish task .completed)
  | stops {task : Nat} (runs : c.group.isRunning task = true) (asked : c.group.cancelled = true) :
      Step ends c (c.finish task .cancelled)
  | meanwhile {operation : Operation} (spares : operation.spares = true) :
      Step ends c (c.setService (c.call.service.perform operation).1)
  | resumes : Step ends c c.resume
  | passes {later : Duration} (forward : c.now.nanos ≤ later.nanos) (idle : c.Idle ends later) :
      Step ends c { c with now := later }

/-- Any number of steps. -/
inductive Run (ends : Nat → Option Duration) : Countdown → Countdown → Prop where
  | refl (c : Countdown) : Run ends c c
  | tail {first middle last : Countdown} (run : Run ends first middle)
      (step : Step ends middle last) : Run ends first last

end Countdown

end NetconfGate.Channel
