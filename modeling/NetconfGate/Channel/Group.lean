import NetconfGate.Channel.Error

/-!
# Channel groups

A group keeps count of the tasks of one service and of the signals that end
them. Draining refuses new tasks and lets the others go on; cancelling asks them
all to stop. A group is terminated when it is sealed and no task is left. The
signals only ever go up.
-/

namespace NetconfGate.Channel

/-- What runs the tasks of a group. -/
inductive Pool where
  | multiThreaded
  | currentThread
deriving DecidableEq

/-- A pool that was torn down takes no socket. -/
def poolGone : SystemError :=
  .custom .other "A Tokio 1.x context was found, but it is being shutdown."

/-- How a task ended. -/
inductive Outcome where
  | completed
  | panicked
  /-- It was asked to stop. -/
  | cancelled
  /-- Its pool was torn down under it. -/
  | lost
deriving DecidableEq

/-- `tasks` are numbered in the order of their admission; one that has not ended
has no outcome. `tokens` were handed out; each can be cancelled by itself, and
all of them with the group. -/
structure Group where
  draining : Bool
  sealed : Bool
  cancelled : Bool
  tasks : List (Option Outcome)
  tokens : List Bool
deriving DecidableEq

namespace Group

def new : Group := ⟨false, false, false, [], []⟩

def wrongPool : String := "worker pool must be a multi-threaded runtime (got CurrentThread)"

def onPool : Pool → Except Error Group
  | .multiThreaded => .ok new
  | .currentThread => .error (.group wrongPool)

/-- The number of the new task. That the group does not drain and that the task is
counted is one step: no drain comes in between. -/
def enrol (g : Group) : Except Error (Nat × Group) :=
  if g.draining then .error .groupShutdown
  else .ok (g.tasks.length, { g with tasks := g.tasks ++ [none] })

def outcome? (g : Group) (task : Nat) : Option Outcome := g.tasks[task]?.join

def isRunning (g : Group) (task : Nat) : Bool := g.tasks[task]? == some none

/-- A task ends once; what is said of it later is of no effect. -/
def finish (g : Group) (task : Nat) (outcome : Outcome) : Group :=
  if g.isRunning task then { g with tasks := g.tasks.set task (some outcome) } else g

theorem outcome?_finish_of_ended {g : Group} {task : Nat} (outcome : Outcome)
    (ended : g.isRunning task = false) : g.finish task outcome = g := by
  simp [finish, ended]

def finishAll (g : Group) (tasks : List Nat) (outcome : Outcome) : Group :=
  tasks.foldl (fun g task => g.finish task outcome) g

/-- The tasks that have not ended, in order. -/
def running (g : Group) : List Nat :=
  (List.range g.tasks.length).filter g.isRunning

def active (g : Group) : Nat := g.tasks.countP Option.isNone

/-- Takes no more tasks. -/
def drain (g : Group) : Group := { g with draining := true, sealed := true }

/-- Raises the signal of draining alone; it is shared by all who hold it. -/
def cancelDrain (g : Group) : Group := { g with draining := true }

/-- Takes no more tasks and asks the others to stop. -/
def cancelAll (g : Group) : Group :=
  { g with draining := true, sealed := true, cancelled := true }

/-- Tasks that were asked to stop are gone. -/
def stopAll (g : Group) : Group :=
  if g.cancelled then
    { g with tasks := g.tasks.map fun outcome => some (outcome.getD .cancelled) }
  else g

/-- Every task that has not ended is lost with the pool. -/
def loseAll (g : Group) : Group :=
  { g with tasks := g.tasks.map fun outcome => some (outcome.getD .lost) }

/-- A new token and its number. -/
def token (g : Group) : Nat × Group := (g.tokens.length, { g with tokens := g.tokens ++ [false] })

def cancelToken (g : Group) (token : Nat) : Group := { g with tokens := g.tokens.set token true }

def tokenCancelled (g : Group) (token : Nat) : Bool := g.cancelled || g.tokens[token]?.getD false

def isTerminated (g : Group) : Bool := g.sealed && g.active == 0

theorem active_stopAll {g : Group} (asked : g.cancelled = true) : g.stopAll.active = 0 := by
  simp [stopAll, asked, active, List.countP_eq_zero]

end Group

end NetconfGate.Channel
