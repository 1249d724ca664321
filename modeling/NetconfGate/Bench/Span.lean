import NetconfGate.Bench.Carrier
import NetconfGate.Bridge.Basic
import NetconfGate.Channel.Dial
import NetconfGate.Configuration

/-!
# A bench for bridges

One bridge to one backend, and the client's side of its relay. While a relay
runs, the bridge that it was taken from cannot be looked at.
-/

namespace NetconfGate.Bench

open Channel

namespace Span

inductive Step where
  | state
  | connect
  | factory
  | create
  | accept (as : String)
  | listen
  | closeService
  /-- With a channel of so much room as the client's side. -/
  | start (room : Nat)
  | startScript (script : Script)
  | clientSend (data : Bytes)
  | clientReceive (count : Nat)
  | clientFinish
  | clientDrop
  | clientReadEnd
  | running
  | join
  | stream (name : String) (step : Stream.Step)

/-- What a script has seen in the end. -/
structure Seen where
  written : Bytes
  shutdowns : Nat

/-- The summary of a relay, its counters as numbers. -/
structure Tally where
  clientToBackend : Nat
  backendToClient : Nat
  endedBy : Relay.Direction

def Tally.ofSummary (s : Relay.Summary) : Tally :=
  ⟨s.clientToBackend.toNat, s.backendToClient.toNat, s.endedBy⟩

inductive Answer where
  | done
  | state (state : Bridge.State)
  | moved
  | failed (error : Bridge.Error)
  | factory (name : String) (sameAddress : Bool)
  | flag (value : Bool)
  | notStarted
  | joined (result : Except Bridge.Error Tally) (seen : Option Seen)
  | stream (answer : Stream.Answer)
  | timedOut

/-- A relay that was started. Without a carrier there was no backend for it. -/
structure Run where
  bridge : Bridge End
  carrier : Option Carrier
  client : Party
  /-- Whether the bridge of the bench was taken for it. -/
  own : Bool

end Span

structure Span where
  service : Service
  network : Network
  timeout : Duration
  bridge : Bridge End
  /-- A bridge that the next start takes first. -/
  command : Option (Bridge End)
  running : Option Span.Run
  /-- The end that drives the client's side. -/
  client : Option End

namespace Span

def backendName : String := "backend"

def new (service : Service) (session : SessionId) (manner : Manner) (timeout : Option Duration) :
    Span :=
  let network := Network.new.addBackend backendName manner
  let address := ((network.backend? backendName).map Backend.address).getD Network.occupied
  ⟨service, network, timeout.getD defaultConnectTimeout, .new session address, none, none, none⟩

/-- Carries on with the relay. -/
def settle (b : Span) : Span :=
  match b.running with
  | some ⟨bridge, some carrier, client, own⟩ =>
      let (carrier, network) := carrier.settle b.network
      { b with network := network, running := some ⟨bridge, some carrier, client, own⟩ }
  | _ => b

/-- The dial of the backend, and the end of its wire. -/
def dial (b : Span) : Except Channel.Error End × Span :=
  let answer := b.network.answer [] b.bridge.address
  let dialled := b.service.dial b.bridge.address b.timeout answer none
  let b := { b with service := dialled.service }
  match dialled.result with
  | .error e => (.error e, b)
  | .ok _ =>
      let (wire, network) := b.network.reach b.bridge.address
      (.ok ⟨wire, .caller⟩, { b with network := network })

def closeHeld (n : Network) (held : Option End) : Network :=
  match held with
  | some e => n.close e
  | none => n

def connect (b : Span) : Answer × Span :=
  let (outcome, b) := b.dial
  let (result, bridge) := b.bridge.connect outcome
  let replaced := if outcome.isOk then b.bridge.backend else none
  let b := { b with bridge := bridge, network := closeHeld b.network replaced }
  match result with
  | .ok _ => (.done, b)
  | .error e => (.failed e, b)

def create (b : Span) : Answer × Span :=
  let (outcome, b) := b.dial
  match Bridge.create b.bridge.session b.bridge.address outcome with
  | .error e => (.failed e, b)
  | .ok made =>
      let replaced := b.command.bind Bridge.backend
      (.done, { b with command := some made, network := closeHeld b.network replaced })

def start (b : Span) (client : Party) : Answer × Span :=
  let (taken, own) := match b.command with
    | some command => (command, false)
    | none => (b.bridge, true)
  let run : Run := match taken.start with
    | .ok (backend, bridge) => ⟨bridge, some (.new client backend), client, own⟩
    | .error _ => ⟨taken, none, client, own⟩
  (.done, { b with command := none, running := some run })

/-- What the script of the client's side has seen. -/
def seen : Party → Option Seen
  | .wire _ => none
  | .script s => some ⟨s.written.flatten, s.shutdowns⟩

def join (b : Span) : Answer × Span :=
  match b.running with
  | none => (.notStarted, b)
  | some run =>
      let back (bridge : Bridge End) (b : Span) : Span :=
        { b with running := none, bridge := if run.own then bridge else b.bridge }
      match run.carrier with
      | none =>
          let network := match run.client with
            | .wire e => b.network.retire e
            | .script _ => b.network
          (.joined (.error .notConnected) (seen run.client), back run.bridge { b with network := network })
      | some carrier =>
          match carrier.relay.result? with
          | none => (.timedOut, b)
          | some result =>
              (.joined ((Bridge.outcome result).map .ofSummary) (seen carrier.client),
                back run.bridge.finish b)

/-- Writes as much as there is room for, again and again. -/
def clientSend (b : Span) (e : End) : Nat → Bytes → Option Answer × Span
  | 0, _ => (none, b)
  | fuel + 1, data =>
      match b.network.wire? e with
      | none => (some .notStarted, b)
      | some wire =>
          if wire.refuses e.side then (some (.stream .closed), b)
          else
            let count := wire.space e.side data.length
            if data.isEmpty then (some .done, b)
            else if count = 0 then (none, b)
            else
              let network := b.network.change e.wire fun w => w.write e.side (data.take count)
              clientSend (settle { b with network := network }) e fuel (data.drop count)

def onClient (b : Span) (step : Stream.Step) : Answer × Span :=
  match b.client with
  | none => (.notStarted, b)
  | some e =>
      match b.network.wire? e with
      | none => (.notStarted, b)
      | some wire =>
          let (answer, wire) := Stream.onWire wire e.side step
          let b := { b with network := b.network.change e.wire fun _ => wire }
          match answer with
          | some answer => (.stream answer, b)
          | none => (.timedOut, b)

/-- A read of more than the room takes what comes, lets the relay go on, and
reads again. -/
def clientReceive (b : Span) (e : End) (got : List Bytes) : Nat → Nat → Answer × Span
  | 0, _ => (.timedOut, b)
  | fuel + 1, left =>
      match b.network.wire? e with
      | none => (.notStarted, b)
      | some wire =>
          let isOver := (wire.incoming e.side).ended
          let (bytes, wire) := wire.read e.side left
          let b := settle { b with network := b.network.change e.wire fun _ => wire }
          let left := left - bytes.length
          if left = 0 then (.stream (.bytes (got ++ [bytes]).flatten), b)
          else if isOver then (.stream .closed, b)
          else if bytes.isEmpty then (.timedOut, b)
          else clientReceive b e (got ++ [bytes]) fuel left

def clientReadEnd (b : Span) (e : End) (got : List Bytes) : Nat → Answer × Span
  | 0 => (.timedOut, b)
  | fuel + 1 =>
      match b.network.wire? e with
      | none => (.notStarted, b)
      | some wire =>
          let isOver := (wire.incoming e.side).ended
          let (bytes, wire) := wire.readAll e.side
          let b := settle { b with network := b.network.change e.wire fun _ => wire }
          if isOver then (.stream (.ended (got ++ [bytes]).flatten), b)
          else if bytes.isEmpty then (.timedOut, b)
          else clientReadEnd b e (got ++ [bytes]) fuel

/-- The bytes on their way on any wire and in the relay. -/
def pending (b : Span) : Nat :=
  b.network.wires.foldl (fun total w => total + w.fromCaller.size + w.fromAnswerer.size) bufferSize

def onEnd (b : Span) (act : End → Answer × Span) : Answer × Span :=
  match b.client with
  | none => (.notStarted, b)
  | some e => act e

def act (b : Span) : Step → Answer × Span
  | .state =>
      match b.running with
      | some ⟨_, _, _, true⟩ => (.moved, b)
      | _ => (.state b.bridge.state, b)
  | .connect =>
      match b.running with
      | some ⟨_, _, _, true⟩ => (.moved, b)
      | _ => b.connect
  | .factory => (.factory Bridge.subsystem true, b)
  | .create => b.create
  | .accept as =>
      match b.network.takeWaiting backendName with
      | some (wire, network) => (.done, { b with network := network.bind as ⟨wire, .answerer⟩ })
      | none => (.timedOut, b)
  | .listen => (.done, { b with network := b.network.listen backendName })
  | .closeService =>
      (.done, { b with service := (b.service.close .immediate fun _ => none).service })
  | .start room =>
      let (wire, network) := b.network.addWire (.channel room)
      let b := { b with network := closeHeld network b.client, client := some ⟨wire, .caller⟩ }
      b.start (.wire ⟨wire, .answerer⟩)
  | .startScript script =>
      ({ b with network := closeHeld b.network b.client, client := none } : Span).start (.script script)
  | .clientSend data =>
      b.onEnd fun e =>
        let (answer, b) := b.clientSend e (data.length + 1) data
        (answer.getD .timedOut, b)
  | .clientReceive count => b.onEnd fun e => b.clientReceive e [] (count + 1) count
  | .clientFinish => b.onClient .finish
  | .clientDrop => let (answer, b) := b.onClient .close; (answer, { b with client := none })
  | .clientReadEnd => b.onEnd fun e => b.clientReadEnd e [] (b.pending + 2)
  | .running =>
      (.flag (b.running.any fun run => run.carrier.any fun c => c.relay.ended.isNone), b)
  | .join => b.join
  | .stream name step =>
      match b.network.onStream name step with
      | (some answer, network) => (.stream answer, { b with network := network })
      | (none, network) => (.timedOut, { b with network := network.giveUp name })

/-- A step and all that it sets off. -/
def step (b : Span) (s : Step) : Answer × Span :=
  let (answer, b) := b.settle.act s
  (answer, b.settle)

end Span

end NetconfGate.Bench
