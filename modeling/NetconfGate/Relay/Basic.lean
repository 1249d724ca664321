import NetconfGate.Relay.Pump

/-!
# Relays

Two pumps, one for each direction. The relay is over when the first of them
ends; then both sides are shut down and nothing moves any more.
-/

namespace NetconfGate

/-- Where bytes go. -/
inductive Relay.Direction where
  | clientToBackend
  | backendToClient
deriving DecidableEq

/-- `ended` holds the direction that ended first and its failure. -/
structure Relay where
  outbound : Pump
  inbound : Pump
  ended : Option (Relay.Direction × Option SystemError)
deriving DecidableEq

namespace Relay

def new : Relay := ⟨.new, .new, none⟩

def pump (r : Relay) : Direction → Pump
  | .clientToBackend => r.outbound
  | .backendToClient => r.inbound

def setPump (r : Relay) (pump : Pump) : Direction → Relay
  | .clientToBackend => { r with outbound := pump }
  | .backendToClient => { r with inbound := pump }

@[simp]
theorem pump_setPump (r : Relay) (pump : Pump) (direction : Direction) :
    (r.setPump pump direction).pump direction = pump := by
  cases direction <;> rfl

theorem pump_setPump_of_ne (r : Relay) (pump : Pump) {direction other : Direction}
    (different : other ≠ direction) : (r.setPump pump direction).pump other = r.pump other := by
  cases direction with
  | clientToBackend =>
      cases other with
      | clientToBackend => exact absurd rfl different
      | backendToClient => rfl
  | backendToClient =>
      cases other with
      | clientToBackend => rfl
      | backendToClient => exact absurd rfl different

@[simp]
theorem pump_ended (r : Relay) (ended : Option (Direction × Option SystemError))
    (direction : Direction) :
    ({ r with ended := ended } : Relay).pump direction = r.pump direction := by
  cases direction <;> rfl

/-- The sinks in the order in which they are shut down. -/
def shutdowns : List Direction := [.clientToBackend, .backendToClient]

theorem mem_shutdowns (direction : Direction) : direction ∈ shutdowns := by
  cases direction <;> simp [shutdowns]

/-- One answer to one of the pumps, and the bytes that were delivered by it. -/
def step (r : Relay) (direction : Direction) (event : Pump.Event) : Relay × Bytes :=
  if r.ended.isSome then (r, [])
  else
    let (pump, delivered) := (r.pump direction).step event
    let r := r.setPump pump direction
    match pump.phase with
    | .ended failure => ({ r with ended := some (direction, failure) }, delivered)
    | _ => (r, delivered)

/-- A relay that goes on moves one pump, and is over when that pump ends. -/
theorem step_of_going {r : Relay} (going : r.ended = none) (direction : Direction)
    (event : Pump.Event) :
    let moved := (r.pump direction).step event
    let stepped := r.step direction event
    stepped.2 = moved.2 ∧ stepped.1.pump direction = moved.1 ∧
      (∀ other, other ≠ direction → stepped.1.pump other = r.pump other) ∧
      (stepped.1.ended = none ∨ ∃ failure, moved.1.phase = .ended failure ∧
        stepped.1.ended = some (direction, failure)) := by
  intro moved stepped
  have either : stepped = (r.setPump moved.1 direction, moved.2) ∨
      ∃ failure, moved.1.phase = .ended failure ∧ stepped =
        ({ r.setPump moved.1 direction with ended := some (direction, failure) }, moved.2) := by
    simp only [stepped, step, going, Option.isSome_none, Bool.false_eq_true, if_false]
    split
    · rename_i failure isOver
      exact Or.inr ⟨failure, isOver, rfl⟩
    · exact Or.inl rfl
  rcases either with goes | ⟨failure, isOver, ends⟩
  · have still : (r.setPump moved.1 direction).ended = none := by
      cases direction <;> exact going
    rw [goes]
    exact ⟨rfl, pump_setPump _ _ _, fun _ different => pump_setPump_of_ne _ _ different,
      Or.inl still⟩
  · rw [ends]
    refine ⟨rfl, ?_, ?_, Or.inr ⟨failure, isOver, rfl⟩⟩
    · rw [pump_ended, pump_setPump]
    · intro other different
      rw [pump_ended, pump_setPump_of_ne _ _ different]

theorem step_of_ended {r : Relay} (ended : r.ended.isSome = true) (direction : Direction)
    (event : Pump.Event) : r.step direction event = (r, []) := by
  simp [step, ended]

/-- What a relay tells of itself when it is over. -/
structure Summary where
  clientToBackend : UInt64
  backendToClient : UInt64
  endedBy : Direction
deriving DecidableEq

def Summary.count (s : Summary) : Direction → UInt64
  | .clientToBackend => s.clientToBackend
  | .backendToClient => s.backendToClient

def result? (r : Relay) : Option (Except SystemError Summary) :=
  r.ended.map fun (direction, failure) =>
    match failure with
    | none => .ok ⟨r.outbound.count, r.inbound.count, direction⟩
    | some cause => .error cause

theorem isSome_result? (r : Relay) : r.result?.isSome = r.ended.isSome := by
  simp [result?]

theorem ended_of_result {r : Relay} {summary : Summary} (told : r.result? = some (.ok summary)) :
    r.ended = some (summary.endedBy, none) ∧
      ∀ direction, summary.count direction = (r.pump direction).count := by
  unfold result? at told
  cases ended : r.ended with
  | none =>
      rw [ended] at told
      cases told
  | some isOver =>
      obtain ⟨direction, failure⟩ := isOver
      rw [ended] at told
      cases failure with
      | some cause => cases told
      | none =>
          cases told
          refine ⟨rfl, ?_⟩
          intro other
          cases other <;> rfl

end Relay

end NetconfGate
