import NetconfGate.Secure.Keeper
import NetconfGate.Server.Closedown

/-!
# Sessions at a close

While a server closes, the keepers of its sessions are polled. A keeper whose setup
is through has a session from then on, and a keeper that is over ends the task of
its visit. A visit may hang up, which its keeper finds out when it is polled. For
each visit it is settled whose turn is first when its keeper is polled and the group
has asked it to stop.

What serves a connection goes on until the client hangs up. A client that was
told the reason ends its connection.
-/

namespace NetconfGate.Server

open Channel

/-- What becomes of a visit at a close: its task, whether that runs, whether its
session is up, and whether the visit has gone. -/
structure Standing where
  task : Option Nat
  runs : Bool
  up : Bool
  gone : Bool
deriving DecidableEq

def Standing.leave (s : Standing) : Standing := { s with gone := true }

namespace Traffic

def standing? (t : Traffic) (number : Nat) : Option Standing :=
  t.visits[number]?.map fun visit => ⟨visit.arrival.task, t.isServed visit, visit.up, visit.gone⟩

/-- The task of the visit is not told. -/
def hangUp (t : Traffic) (number : Nat) : Traffic :=
  { t with visits := t.visits.modify number Visit.leave }

end Traffic

/-- A close, and the keepers of the visits by their numbers. -/
structure Parting where
  closing : Closedown
  keepers : Nat → Secure.Keeper

namespace Parting

def start (b : Bound) (keepers : Nat → Secure.Keeper) : Parting := ⟨.start b, keepers⟩

def standing? (p : Parting) (number : Nat) : Option Standing :=
  p.closing.traffic.standing? number

def hasGone (p : Parting) (number : Nat) : Bool := (p.standing? number).any Standing.gone

/-- The session of a visit is up and was told nothing, and its keeper watches it. -/
structure IsUp (p : Parting) (number : Nat) (deadline : Bool) : Prop where
  stands : ∃ task, p.standing? number = some ⟨some task, true, true, false⟩
  watches : p.keepers number = ⟨.watching deadline, none⟩

def isCancelled (p : Parting) : Bool := p.closing.traffic.service.group.cancelled

def setKeeper (p : Parting) (number : Nat) (keeper : Secure.Keeper) : Parting :=
  { p with keepers := fun other => if other = number then keeper else p.keepers other }

def hangUp (p : Parting) (number : Nat) : Parting :=
  { p with closing := { p.closing with traffic := p.closing.traffic.hangUp number } }

/-- A keeper that finds its setup through has a session. -/
def identify (p : Parting) (number : Nat) (f : Secure.Keeper.Findings) : Parting :=
  if (p.keepers number).takes? f = some true then
    let t := p.closing.traffic
    { p with closing := { p.closing with traffic := (t.step (.identifies number)).1 } }
  else p

def poll (p : Parting) (number task : Nat) (f : Secure.Keeper.Findings) : Parting :=
  let keeper := (p.keepers number).poll f
  let p := (p.identify number f).setKeeper number keeper
  if keeper.stage = .finished then
    { p with
      closing := p.closing.onService fun service =>
        service.finish task (if f.cancelled then .cancelled else .completed) }
  else p

/-- Whether a visit is served on when the time that it was given is over. -/
def isServed (p : Parting) (number : Nat) : Bool :=
  (p.closing.traffic.heard? number).isSome && (p.keepers number).told.isNone

def farewell (p : Parting) (number : Nat) : Secure.Farewell :=
  ⟨(p.keepers number).told = some Secure.goodbye, p.isServed number⟩

/-- The close goes on, and the visits stand as they stood, or have left; or one of
them hangs up, or its keeper is polled. -/
inductive Step (turns : Nat → Secure.Turn) (p : Parting) : Parting → Prop where
  | closes {next : Closedown} (step : p.closing.Step next)
      (stand : ∀ number standing, p.standing? number = some standing →
        next.traffic.standing? number = some standing ∨
          next.traffic.standing? number = some standing.leave) :
      Step turns p { p with closing := next }
  | hangsUp (number : Nat) : Step turns p (p.hangUp number)
  | polls {number task : Nat} {up gone : Bool}
      (stands : p.standing? number = some ⟨some task, true, up, gone⟩)
      (f : Secure.Keeper.Findings) (cancelled : f.cancelled = p.isCancelled)
      (turn : f.turn = turns number) (ended : f.ended = gone) :
      Step turns p (p.poll number task f)

/-- Any number of steps. -/
inductive Run (turns : Nat → Secure.Turn) : Parting → Parting → Prop where
  | refl (p : Parting) : Run turns p p
  | tail {first middle last : Parting} (run : Run turns first middle)
      (step : Step turns middle last) : Run turns first last

end Parting

end NetconfGate.Server
