import NetconfGate.Bridge.Crossing

/-!
# Calls on a bridge

A bridge can be told to connect and to relay, in any order and as often as one
likes. A relay is one crossing, with whatever its two sides do; it returns when
the crossing has given its result. Each call is told with what it did.
-/

namespace NetconfGate.Bridge

/-- The arrows of the diagram. -/
def State.leadsTo : State → State → Bool
  | .requested, .connecting => true
  | .connecting, .bridging => true
  | .connecting, .closed => true
  | .bridging, .closed => true
  | _, _ => false

/-- A connect comes with how its dial goes. -/
inductive Call (β : Type) where
  | connect (outcome : Except Channel.Error β)
  | relay (events : List Crossing.Event)

def Call.isConnect {β : Type} : Call β → Bool
  | .connect _ => true
  | .relay _ => false

/-- The connection that a call opens. -/
def Call.backend? {β : Type} : Call β → Option β
  | .connect (.ok backend) => some backend
  | _ => none

/-- What a call did. `states` are those that the bridge came to, in order, and
`carried` is how many bytes the two sides have taken. -/
structure Account (β : Type) where
  states : List State
  dialled : Bool
  opened : Option β
  carried : Nat
  result : Except Error (Option Relay.Summary)

/-- A call that does nothing. -/
def Account.refused {β : Type} : Account β := ⟨[], false, none, 0, .error .notConnected⟩

variable {β : Type}

/-- A call that returns, and the bridge that it leaves. -/
def perform? (b : Bridge β) : Call β → Option (Account β × Bridge β)
  | .connect outcome =>
      let (result, connected) := b.connect outcome
      some
        (⟨[b.dialling.state, connected.state], true, outcome.toOption, 0, result.map fun _ => none⟩,
          connected)
  | .relay events =>
      match Crossing.start b with
      | .error cause => some (⟨[], false, none, 0, .error cause⟩, b)
      | .ok crossing =>
          let last := crossing.run events
          last.result.map fun result =>
            (⟨[last.bridge.state], false, none,
                last.outbound.sink.accepted.length + last.inbound.sink.accepted.length,
                result.map some⟩,
              last.bridge)

def performAll? (b : Bridge β) : List (Call β) → Option (List (Account β) × Bridge β)
  | [] => some ([], b)
  | call :: rest => do
      let (account, next) ← b.perform? call
      let (accounts, last) ← next.performAll? rest
      return (account :: accounts, last)

end NetconfGate.Bridge
