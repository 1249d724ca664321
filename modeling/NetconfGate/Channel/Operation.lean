import NetconfGate.Channel.Service

/-!
# Operations on a service

What a service and its group go through, one operation after the other. An
operation is what runs without a wait; whatever waits lets other operations come
in between. So a close only begins as one operation: the ends of its tasks
follow, and a graceful close that has waited in vain goes on with a cancel.
-/

namespace NetconfGate.Channel

inductive Operation where
  | spawn
  /-- A task is done or dropped. -/
  | ends (task : Nat) (outcome : Outcome)
  | drain
  | cancel
  | beginClose (mode : CloseMode)
  /-- A token of the group is handed out. -/
  | takeToken
  | cancelToken (token : Nat)
  | cancelDrain
deriving DecidableEq

/-- What an operation does to the tasks. -/
inductive Change where
  | admitted (task : Nat)
  | refused
  | ended (task : Nat) (outcome : Outcome)
deriving DecidableEq

namespace Change

def admission? : Change → Option Nat
  | admitted task => some task
  | _ => none

def end? : Change → Option Nat
  | ended task _ => some task
  | _ => none

/-- The tasks that were admitted and of which no end is told, in the order of
their admission. -/
def unended (changes : List Change) : List Nat :=
  (changes.filterMap admission?).filter fun task => !(changes.filterMap end?).contains task

end Change

namespace Service

/-- What a close does before it waits. -/
def beginClose (s : Service) (mode : CloseMode) : Service :=
  if s.closed then s
  else
    match mode with
    | .graceful => { s with closed := true, group := s.group.drain }
    | .immediate => { s with closed := true, group := s.group.cancelAll }

def perform (s : Service) : Operation → Service × List Change
  | .spawn =>
      match s.spawn with
      | .ok (task, s) => (s, [.admitted task])
      | .error _ => (s, [.refused])
  | .ends task outcome =>
      if s.group.isRunning task then (s.finish task outcome, [.ended task outcome]) else (s, [])
  | .drain => ({ s with group := s.group.drain }, [])
  | .cancel => ({ s with group := s.group.cancelAll }, [])
  | .beginClose mode => (s.beginClose mode, [])
  | .takeToken => ({ s with group := s.group.token.2 }, [])
  | .cancelToken token => ({ s with group := s.group.cancelToken token }, [])
  | .cancelDrain => ({ s with group := s.group.cancelDrain }, [])

def performAll (s : Service) : List Operation → Service × List Change
  | [] => (s, [])
  | operation :: rest =>
      let (next, changes) := s.perform operation
      let (last, more) := next.performAll rest
      (last, changes ++ more)

/-- What waiting for the end of the group comes to, when these operations are
performed until the limit: the end may be seen before any of them and after each. -/
def awaits (s : Service) : List Operation → Bool
  | [] => s.group.isTerminated
  | operation :: rest => s.group.isTerminated || (s.perform operation).1.awaits rest

theorem performAll_append (s : Service) (first second : List Operation) :
    s.performAll (first ++ second) =
      (((s.performAll first).1.performAll second).1,
        (s.performAll first).2 ++ ((s.performAll first).1.performAll second).2) := by
  induction first generalizing s with
  | nil => rfl
  | cons operation rest ih => simp [performAll, ih]

end Service

end NetconfGate.Channel
