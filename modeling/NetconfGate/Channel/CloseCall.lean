import NetconfGate.Channel.Operation

/-!
# Close calls

A close call takes its time, and others use the service meanwhile. A graceful
one waits for the tasks to end by themselves, and cancels the group when it has
waited in vain; then, or at once if it is an immediate one, it waits for the
cancelled tasks to stop. Each wait ends with the end of the tasks or after the
same limit. A call on a service that is closed already returns at once.
-/

namespace NetconfGate.Channel

/-- What a close call is about. -/
inductive CloseCall.Stage where
  /-- It waits for the tasks to end by themselves. -/
  | draining
  /-- It has cancelled the group and waits for the tasks to stop. -/
  | forcing
  | returned
deriving DecidableEq

/-- `service` is what the call and all others share. -/
structure CloseCall where
  service : Service
  stage : CloseCall.Stage
deriving DecidableEq

namespace CloseCall

/-- What an open service is first waited for. -/
def Stage.first : CloseMode → Stage
  | .graceful => .draining
  | .immediate => .forcing

def start (s : Service) (mode : CloseMode) : CloseCall :=
  ⟨s.beginClose mode, if s.closed then .returned else .first mode⟩

theorem start_of_closed {s : Service} (closed : s.closed = true) (mode : CloseMode) :
    start s mode = ⟨s, .returned⟩ := by
  simp [start, Service.beginClose, closed]

/-- The call goes on, if what it waits for has come or it has waited too long. -/
def resume (c : CloseCall) (late : Bool) : CloseCall :=
  match c.stage with
  | .draining =>
      if c.service.group.isTerminated then { c with stage := .returned }
      else if late then ⟨{ c.service with group := c.service.group.cancelAll }, .forcing⟩
      else c
  | .forcing =>
      if c.service.group.isTerminated || late then { c with stage := .returned } else c
  | .returned => c

/-- Whether it has waited in vain for the tasks to end by themselves. -/
def forces (c : CloseCall) (late : Bool) : Bool :=
  late && c.stage == .draining && !c.service.group.isTerminated

/-- All that the call does to the service when it goes on is to cancel the group. -/
theorem service_resume (c : CloseCall) (late : Bool) :
    (c.resume late).service =
      if c.forces late then { c.service with group := c.service.group.cancelAll }
      else c.service := by
  unfold resume forces
  cases c.stage with
  | draining =>
      cases c.service.group.isTerminated with
      | true => simp
      | false => cases late <;> rfl
  | forcing =>
      dsimp only
      split <;> simp
  | returned => simp

theorem resume_of_returned {c : CloseCall} (returned : c.stage = .returned) (late : Bool) :
    c.resume late = c := by
  simp [resume, returned]

end CloseCall

end NetconfGate.Channel
