import NetconfGate.Channel.Acceptor
import NetconfGate.Channel.Attempt
import NetconfGate.Channel.CloseCall

/-!
# The course of a service

What comes of a service while acceptors listen, connections come in, dials are
in flight and the close that does the work goes on. All of it takes turns, one
event after the other. The sessions of a service are the connections that it
took in or dialled, and each holds a token of the group.
-/

namespace NetconfGate.Channel

/-- The tokens of the sessions. -/
def Service.sessionTokens (s : Service) : List Nat :=
  s.arrivals.map Arrival.token ++ s.departures.map Departure.token

/-- `closing` is how far the close that does the work has come, if there is one;
`attempts` are the dials in the order in which they began. -/
structure Course where
  service : Service
  closing : Option CloseCall.Stage
  attempts : List Attempt

namespace Course

def new : Course := ⟨.new, none, []⟩

inductive Event where
  | operation (operation : Operation)
  /-- The close that does the work goes on. -/
  | resumes (late : Bool)
  | acceptor
  | listens (acceptor : Nat) (address : Address)
  | unbinds (acceptor : Nat)
  /-- A connection reaches a loop. -/
  | accepts (loop : Nat)
  | dials (address : Address) (timeout : Duration)
  | pursues (attempt : Nat) (news : Option News) (newsFirst : Bool)

/-- Only the first close does anything. -/
def close (c : Course) (mode : CloseMode) : Course :=
  if c.service.closed then c
  else
    let call := CloseCall.start c.service mode
    { c with service := call.service, closing := some call.stage }

def resume (c : Course) (late : Bool) : Course :=
  match c.closing with
  | none => c
  | some stage =>
      let call := (⟨c.service, stage⟩ : CloseCall).resume late
      { c with service := call.service, closing := some call.stage }

/-- A loop takes connections for as long as it runs. -/
def accept (c : Course) (loop : Nat) : Course :=
  match c.service.runningLoops[loop]? with
  | none => c
  | some loop => { c with service := (c.service.accept loop).2 }

def dial (c : Course) (address : Address) (timeout : Duration) : Course :=
  let (attempt, service) := c.service.attempt address timeout
  { c with service := service, attempts := c.attempts ++ [attempt] }

def pursue (c : Course) (attempt : Nat) (news : Option News) (newsFirst : Bool) : Course :=
  match c.attempts[attempt]? with
  | none => c
  | some a =>
      let (a, service) := c.service.pursue a news newsFirst
      { c with service := service, attempts := c.attempts.set attempt a }

def step (c : Course) : Event → Course
  | .operation (.beginClose mode) => c.close mode
  | .operation operation => { c with service := (c.service.perform operation).1 }
  | .resumes late => c.resume late
  | .acceptor => { c with service := c.service.acceptor.2 }
  | .listens acceptor address => { c with service := (c.service.listen acceptor address).2 }
  | .unbinds acceptor => { c with service := (c.service.unbind acceptor).service }
  | .accepts loop => c.accept loop
  | .dials address timeout => c.dial address timeout
  | .pursues attempt news newsFirst => c.pursue attempt news newsFirst

def after (c : Course) (events : List Event) : Course := events.foldl step c

/-- What the dial with that number came to. -/
def result? (c : Course) (attempt : Nat) : Option (Except Error Departure) :=
  c.attempts[attempt]?.bind Attempt.result?

def hasReturned (c : Course) : Bool := c.closing == some .returned

end Course

end NetconfGate.Channel
