import NetconfGate.Secure.Keeper

/-!
# Vigils

A keeper at its session, on the clock. The exchange of identification lines goes
on while the keeper sets the session up; it starts the session when it finds that
both sides have named their protocol. The client then agrees on keys, and only
after that are its passwords looked at, in no time, and the server's messages
heard.

The clock goes on only as far as nothing is due: not while there is something to
be found that a keeper would act on, not past the deadline of a keeper that waits
for it, not while a client that was told to go can hear it.
-/

namespace NetconfGate.Secure

/-- How long a keeper waits for the end of a session that was told to end. -/
def grace : Duration := .ofSeconds 1

/-- What keeps a session from being ended for its time, if it comes in time. -/
def Occurrence.isDecisive : Occurrence → Bool
  | .identified => false
  | .attempt accepted => accepted
  | .setupFails | .ends | .shutdown => true

/-- `exchanged` is how the exchange of identification lines went, once it is over,
and `agreed` is whether there are keys. `since` is when the client was told to go,
and `expired` is when the session was ended for its time. `watch` is the account
of what happened that a single look at the clock gives. -/
structure Vigil where
  now : Moment
  watch : Watch
  keeper : Keeper
  exchanged : Option Bool
  started : Bool
  agreed : Bool
  accepted : Bool
  ended : Bool
  cancelled : Bool
  since : Option Moment
  expired : Option Moment
  past : List (Moment × Occurrence)

namespace Vigil

def start (accepted : Moment) (watch : Watch) : Vigil :=
  ⟨accepted, watch, ⟨.settingUp, none⟩, none, false, false, false, false, false, none, none, []⟩

def deadline (v : Vigil) : Moment := v.watch.deadline

/-- The session is served, by a task of its own. -/
def isServed (v : Vigil) : Bool := v.started && !v.ended

/-- The connection of the client stands. -/
def isConnected (v : Vigil) : Bool := v.isServed || v.keeper.stage = .settingUp

/-- The keeper goes by the deadline still. -/
def awaits (v : Vigil) : Bool :=
  v.keeper.stage = .settingUp || v.keeper.stage = .watching true

def isLate (v : Vigil) : Bool := !v.now.isBefore v.deadline

def isGraceOver (v : Vigil) : Bool :=
  v.since.any fun since => since.nanos + grace.nanos ≤ v.now.nanos

def allows (v : Vigil) : Occurrence → Bool
  | .identified | .setupFails => v.keeper.stage = .settingUp && v.exchanged.isNone
  | .attempt _ => v.isServed && v.agreed
  | .ends => v.isServed
  | .shutdown => true

def take (v : Vigil) (occurrence : Occurrence) : Vigil :=
  let v := { v with
    watch := v.watch.on v.now occurrence
    past := v.past ++ [(v.now, occurrence)] }
  match occurrence with
  | .identified => { v with exchanged := some true }
  | .setupFails => { v with exchanged := some false }
  | .attempt accepted => { v with accepted := v.accepted || accepted }
  | .ends => { v with ended := true }
  | .shutdown => { v with cancelled := true }

/-- An exchange that is over is looked at before the deadline. -/
def setUp? (v : Vigil) : Option Bool :=
  match v.exchanged with
  | some went => some went
  | none => if v.isLate then some false else none

/-- The end of the session is found some time, and the loss of its signals too. -/
structure Sees (v : Vigil) (f : Keeper.Findings) : Prop where
  cancelled : f.cancelled = v.cancelled
  setUp : f.setUp = v.setUp?
  ended : f.ended = true → v.ended = true
  late : f.late = v.isLate
  accepted : v.accepted = true → f.settled = true
  settled : f.settled = true → v.accepted = true ∨ v.ended = true
  graceOver : f.graceOver = v.isGraceOver

/-- This poll ends the session for its time. -/
def expires (v : Vigil) (f : Keeper.Findings) : Bool :=
  (v.keeper.told.isNone && (v.keeper.poll f).told = some tooLate) ||
    (v.exchanged.isNone && v.keeper.takes? f = some false)

def poll (v : Vigil) (f : Keeper.Findings) : Vigil :=
  let keeper := v.keeper.poll f
  { v with
    keeper := keeper
    started := v.started || v.keeper.takes? f = some true
    since := if v.keeper.told.isNone && keeper.told.isSome then some v.now else v.since
    expired := if v.expires f then some v.now else v.expired }

/-- The latest time that the keeper waits until. -/
def due? (v : Vigil) : Option Nat :=
  match v.keeper.stage with
  | .settingUp | .watching true => some v.deadline.nanos
  | .parting => v.since.map fun since => since.nanos + grace.nanos
  | .watching false | .finished => none

/-- A client that was told to go, and that hears it. -/
def isHeeding (v : Vigil) : Bool := v.isServed && v.agreed && v.keeper.told.isSome

/-- Nothing is due before `later`. -/
structure Idle (v : Vigil) (later : Moment) : Prop where
  still : ∀ f, v.Sees f → v.keeper.poll f = v.keeper
  heeded : v.isHeeding = false
  due : ∀ nanos, v.due? = some nanos → later.nanos ≤ nanos

inductive Step (v : Vigil) : Vigil → Prop where
  | happens {occurrence : Occurrence} (allowed : v.allows occurrence = true) :
      Step v (v.take occurrence)
  | agrees (served : v.isServed = true) : Step v { v with agreed := true }
  | heeds (told : v.isHeeding = true) : Step v { v with ended := true }
  | polls {f : Keeper.Findings} (sees : v.Sees f) : Step v (v.poll f)
  | passes {later : Moment} (forward : v.now.nanos ≤ later.nanos) (idle : v.Idle later) :
      Step v { v with now := later }

/-- Any number of steps. -/
inductive Run : Vigil → Vigil → Prop where
  | refl (v : Vigil) : Run v v
  | tail {first middle last : Vigil} (run : Run first middle) (step : Step middle last) :
      Run first last

end Vigil

end NetconfGate.Secure
