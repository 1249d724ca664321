import NetconfGate.Channel.Operation
import NetconfGate.Server.Traffic

/-!
# Dialogues

What one client does that has logged in, one thing after the other: it opens
channels, closes them, and asks for subsystems on them. A request waits for its
dial, and until it is answered nothing else is heard from this client. The others
go on meanwhile, the links of the client do too, and anything may befall the
service that all of them share.
-/

namespace NetconfGate.Server

open Channel

/-- What goes on beside a dialogue. -/
inductive Aside where
  | operation (operation : Operation)
  | event (event : Event)

/-- A request comes with what goes on until its dial is over, and with how that
goes. -/
inductive Act where
  | opens (channel : Nat)
  | requests (channel : Nat) (name : String) (meanwhile : List Aside)
      (outcome : Except Channel.Error Unit)
  | closes (channel : Nat)
  | aside (aside : Aside)

/-- The visit whose client does something. -/
def Event.client? : Event → Option Nat
  | .identifies number => some number
  | .attempts number _ => some number
  | .opens number _ => some number
  | .requests number _ _ _ _ => some number
  | .closes number _ => some number
  | .leaves number => some number
  | .arrives _ => none
  | .relays _ _ _ _ => none

namespace Traffic

/-- The client of the dialogue is not heard here. -/
def beside (t : Traffic) (number : Nat) : Aside → Traffic
  | .operation operation => { t with service := (t.service.perform operation).1 }
  | .event event => if event.client? = some number then t else (t.step event).1

def besideAll (t : Traffic) (number : Nat) (asides : List Aside) : Traffic :=
  asides.foldl (fun t aside => t.beside number aside) t

/-- The end of a dial. A connection that stands is numbered. -/
def land (t : Traffic) (id : SessionId) :
    Except Channel.Error Unit → Except Bridge.Error (Bridge Departure) × Traffic
  | .error cause => (Bridge.create id t.backend (.error cause), t)
  | .ok _ =>
      let (departure, service) := t.service.depart
      (Bridge.create id t.backend (.ok departure), { t with service := service })

/-- The answer to a request, once it is known what became of its dial. -/
def answer (t : Traffic) (number channel : Nat) (name : String)
    (bridge : Except Bridge.Error (Bridge Departure)) (visit : Visit) :
    Traffic × List Observation :=
  let started := t.start? channel bridge
  let response := visit.session.request t.setup.subsystems channel name bridge started.isSome
  let told := .reply channel response.success ::
    (if response.closed then [.channelClosed channel] else [])
  match started with
  | some (link, service) =>
      (Traffic.setVisit { t with service := service } number
        { visit with session := response.session, links := visit.links ++ [link] }, told)
  | none => (t.setSession number visit response.session, told)

/-- A group that drains when the dial begins is not dialled from. -/
def reaches (t : Traffic) (outcome : Except Channel.Error Unit) : Except Channel.Error Unit :=
  if t.service.group.draining then .error .groupShutdown else outcome

/-- A dial begins and goes on until its end. -/
def waits (t : Traffic) (number channel : Nat) (meanwhile : List Aside) : Traffic :=
  Traffic.besideAll { t with dials := t.dials ++ [⟨number, channel, t.backend⟩] } number meanwhile

/-- A request with all that comes between it and its answer. -/
def consult (t : Traffic) (number channel : Nat) (name : String) (meanwhile : List Aside)
    (outcome : Except Channel.Error Unit) (visit : Visit) : Traffic × List Observation :=
  if visit.session.claims t.setup.subsystems channel name then
    let (bridge, later) :=
      (t.waits number channel meanwhile).land visit.arrival.id (t.reaches outcome)
    later.answer number channel name bridge (later.visits[number]?.getD visit)
  else (t, [.reply channel false])

def act (t : Traffic) (number : Nat) : Act → Traffic × List Observation
  | .opens channel => t.step (.opens number channel)
  | .requests channel name meanwhile outcome =>
      match t.loggedIn? number with
      | none => (t, [])
      | some visit => t.consult number channel name meanwhile outcome visit
  | .closes channel => t.step (.closes number channel)
  | .aside aside => (t.beside number aside, [])

def afterActs (t : Traffic) (number : Nat) (acts : List Act) : Traffic :=
  acts.foldl (fun t act => (t.act number act).1) t

theorem afterActs_concat (t : Traffic) (number : Nat) (acts : List Act) (last : Act) :
    t.afterActs number (acts ++ [last]) = ((t.afterActs number acts).act number last).1 :=
  List.foldl_append

end Traffic

end NetconfGate.Server
