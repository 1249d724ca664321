import NetconfGate.Server.Basic

/-!
# Runs of a server

What is asked of a server and what happens in its traffic, one thing after the
other, and the record of what was seen of it.
-/

namespace NetconfGate.Server

inductive Call (α : Type) where
  | bind (config : Configuration α HostKey.Source) (around : Surroundings)
  | close
  | traffic (event : Event)

/-- The event of the traffic, if the call is one. -/
def Call.event? {α : Type} : Call α → Option Event
  | .traffic event => some event
  | _ => none

/-- A call, and what the visit that it was about got to see. -/
structure Record (α : Type) where
  call : Call α
  seen : List Observation

variable {α : Type}

def call (s : Server) : Call α → Server × List Observation
  | .bind config around => ((s.bind config around).server, [])
  | .close => (s.close.server, [])
  | .traffic event => s.onEvent event

def run (s : Server) (calls : List (Call α)) : Server :=
  calls.foldl (fun s call => (s.call call).1) s

def history (s : Server) : List (Call α) → List (Record α)
  | [] => []
  | call :: rest => ⟨call, (s.call call).2⟩ :: history (s.call call).1 rest

/-- Every dial that was made in its traffic, in order. -/
def dials (s : Server) : List DialMade := (s.traffic?.map Traffic.dials).getD []

/-- The services that are not closed. -/
def unclosed (s : Server) : List Channel.Service := s.services.filter fun service => !service.closed

/-- Every address that is listened on in any of its services. -/
def sockets (s : Server) : List Address := s.services.flatMap Channel.Service.sockets

theorem run_append (s : Server) (first second : List (Call α)) :
    s.run (first ++ second) = (s.run first).run second :=
  List.foldl_append

theorem run_concat (s : Server) (calls : List (Call α)) (last : Call α) :
    s.run (calls ++ [last]) = ((s.run calls).call last).1 :=
  s.run_append calls [last]

end NetconfGate.Server
