import NetconfGate.Secure.Watch

/-!
# Keepers of sessions

A session is set up by its keeper, a task of the group, and then served by a
task of its own that no group knows. The keeper goes on to watch it: for its
end, for a login that does not come in time, and for the shutdown. In the last
two cases it tells the client why, and waits a little for the session to end.

The group asks every task to stop, and whoever has the first turn at a poll
decides whether a keeper is dropped before it finds out.
-/

namespace NetconfGate.Secure

def tooLate : String := "Authentication timeout"

inductive Keeper.Stage where
  | settingUp
  /-- With whether the deadline still holds. -/
  | watching (deadline : Bool)
  | parting
  | finished
deriving DecidableEq

/-- `told` is the reason that the client was given, if it was given one. -/
structure Keeper where
  stage : Keeper.Stage
  told : Option String
deriving DecidableEq

namespace Keeper

/-- What there is to be found at a poll, and whose turn is first. -/
structure Findings where
  turn : Turn
  cancelled : Bool
  /-- Once the setup is through, whether there is a session. -/
  setUp : Option Bool
  /-- Whether the shutdown is looked at before the setup. -/
  setUpTurn : Turn
  ended : Bool
  late : Bool
  /-- Somebody has logged in, or nobody can any more. -/
  settled : Bool
  lateFirst : Bool
  graceOver : Bool

def Findings.isLate (f : Findings) (deadline : Bool) : Bool :=
  deadline && f.late && (f.lateFirst || !f.settled)

/-- The end is looked at first, and the shutdown last. -/
def watch (k : Keeper) (deadline : Bool) (f : Findings) : Keeper :=
  if f.ended then { k with stage := .finished }
  else if f.isLate deadline then ⟨.parting, some tooLate⟩
  else if f.cancelled then ⟨.parting, some goodbye⟩
  else { k with stage := .watching (deadline && !f.settled) }

/-- Goes on until it has to wait. A shutdown during the setup leaves no session. -/
def goOn (k : Keeper) (f : Findings) : Keeper :=
  match k.stage with
  | .settingUp =>
      if f.cancelled && (f.setUpTurn = .group || f.setUp.isNone) then { k with stage := .finished }
      else
        match f.setUp with
        | some true => k.watch true f
        | some false => { k with stage := .finished }
        | none => k
  | .watching deadline => k.watch deadline f
  | .parting => if f.ended || f.graceOver then { k with stage := .finished } else k
  | .finished => k

/-- A task that was asked to stop is dropped in any case. -/
def poll (k : Keeper) (f : Findings) : Keeper :=
  if f.cancelled then
    match f.turn with
    | .group => { k with stage := .finished }
    | .session => { k.goOn f with stage := .finished }
  else k.goOn f

/-- What a poll finds out of the setup, unless it looks at the shutdown first. -/
def takes? (k : Keeper) (f : Findings) : Option Bool :=
  if k.stage = .settingUp && !(f.cancelled && (f.turn = .group || f.setUpTurn = .group)) then
    f.setUp
  else none

theorem stage_poll_of_cancelled {f : Findings} (cancelled : f.cancelled = true) (k : Keeper) :
    (k.poll f).stage = .finished := by
  unfold poll
  rw [if_pos cancelled]
  cases f.turn <;> rfl

end Keeper

end NetconfGate.Secure
